/-
The lines of the built-in stylesheet that hold on every screen.
-/

namespace ClassAtlas.BuiltIn

/-- The title of the stylesheet and its table of contents. -/
def contents : List String := [
  "/*! TACHYONS v4.12.0 | http://tachyons.io */",
  "/*",
  " *",
  " *      ________            ______",
  " *      ___  __/_____ _________  /______  ______________________",
  " *      __  /  _  __ \x60/  ___/_  __ \\_  / / /  __ \\_  __ \\_  ___/",
  " *      _  /   / /_/ // /__ _  / / /  /_/ // /_/ /  / / /(__  )",
  " *      /_/    \\__,_/ \\___/ /_/ /_/_\\__, / \\____//_/ /_//____/",
  " *                                 /____/",
  " *",
  " *    TABLE OF CONTENTS",
  " *",
  " *    1. Box Sizing",
  " *    2. Aspect Ratios",
  " *    3. Images",
  " *    4. Background Size",
  " *    5. Background Position",
  " *    6. Outlines",
  " *    7. Borders",
  " *    8. Border Colors",
  " *    9. Border Radius",
  " *    10. Border Styles",
  " *    11. Border Widths",
  " *    12. Box-Shadow",
  " *    13. Code",
  " *    14. Coordinates",
  " *    15. Clearfix",
  " *    16. Display",
  " *    17. Flexbox",
  " *    18. Floats",
  " *    19. Font Family Groups",
  " *    20. Font Style",
  " *    21. Font Weight",
  " *    22. Forms",
  " *    23. Heights",
  " *    24. Letter Spacing",
  " *    25. Line Height / Leading",
  " *    26. Links",
  " *    27. Lists",
  " *    28. Max Widths",
  " *    29. Widths",
  " *    30. Overflow",
  " *    31. Positioning",
  " *    32. Opacity",
  " *    33. Rotations",
  " *    34. Skins",
  " *    35. Skins:Pseudo",
  " *    36. Spacing",
  " *    37. Negative Margins",
  " *    38. Tables",
  " *    39. Text Decoration",
  " *    40. Text Align",
  " *    41. Text Transform",
  " *    42. Type Scale",
  " *    43. Typography",
  " *    44. Utilities",
  " *    45. Visibility",
  " *    46. White Space",
  " *    47. Vertical Align",
  " *    48. Hover Effects",
  " *    49. Z-Index",
  " *    50. Nested",
  " *    51. Debug Children",
  " *    52. Debug Grid",
  " *    53. Media Queries",
  " *",
  " */",
  "/*! normalize.css v8.0.0 | MIT License | github.com/necolas/normalize.css */",
  "html \x7b line-height: 1.15; -webkit-text-size-adjust: 100%; \x7d",
  "body \x7b margin: 0; \x7d",
  "h1 \x7b font-size: 2em; margin: .67em 0; \x7d",
  "hr \x7b box-sizing: content-box; height: 0; overflow: visible; \x7d",
  "pre \x7b font-family: monospace, monospace; font-size: 1em; \x7d",
  "a \x7b background-color: transparent; \x7d",
  "abbr[title] \x7b border-bottom: none; text-decoration: underline; -webkit-text-decoration: underline dotted; text-decoration: underline dotted; \x7d",
  "b, strong \x7b font-weight: bolder; \x7d",
  "code, kbd, samp \x7b font-family: monospace, monospace; font-size: 1em; \x7d",
  "small \x7b font-size: 80%; \x7d",
  "sub, sup \x7b font-size: 75%; line-height: 0; position: relative; vertical-align: baseline; \x7d",
  "sub \x7b bottom: -0.25em; \x7d",
  "sup \x7b top: -0.5em; \x7d",
  "img \x7b border-style: none; \x7d",
  "button, input, optgroup, select, textarea \x7b font-family: inherit; font-size: 100%; line-height: 1.15; margin: 0; \x7d",
  "button, input \x7b overflow: visible; \x7d",
  "button, select \x7b text-transform: none; \x7d",
  "button, [type=\"button\"], [type=\"reset\"], [type=\"submit\"] \x7b -webkit-appearance: button; \x7d",
  "button::-moz-focus-inner, [type=\"button\"]::-moz-focus-inner, [type=\"reset\"]::-moz-focus-inner, [type=\"submit\"]::-moz-focus-inner \x7b border-style: none; padding: 0; \x7d",
  "button:-moz-focusring, [type=\"button\"]:-moz-focusring, [type=\"reset\"]:-moz-focusring, [type=\"submit\"]:-moz-focusring \x7b outline: 1px dotted ButtonText; \x7d",
  "fieldset \x7b padding: .35em .75em .625em; \x7d",
  "legend \x7b box-sizing: border-box; color: inherit; display: table; max-width: 100%; padding: 0; white-space: normal; \x7d",
  "progress \x7b vertical-align: baseline; \x7d",
  "textarea \x7b overflow: auto; \x7d",
  "[type=\"checkbox\"], [type=\"radio\"] \x7b box-sizing: border-box; padding: 0; \x7d",
  "[type=\"number\"]::-webkit-inner-spin-button, [type=\"number\"]::-webkit-outer-spin-button \x7b height: auto; \x7d",
  "[type=\"search\"] \x7b -webkit-appearance: textfield; outline-offset: -2px; \x7d",
  "[type=\"search\"]::-webkit-search-decoration \x7b -webkit-appearance: none; \x7d",
  "::-webkit-file-upload-button \x7b -webkit-appearance: button; font: inherit; \x7d",
  "details \x7b display: block; \x7d",
  "summary \x7b display: list-item; \x7d",
  "template \x7b display: none; \x7d",
  "[hidden] \x7b display: none; \x7d"]

/-- Boxes: sizing, ratios, images, backgrounds, outlines, borders and shadows. -/
def boxes : List String := [
  "/*",
  "",
  "   BOX SIZING",
  "",
  "*/",
  "html, body, div, article, aside, section, main, nav, footer, header, form, fieldset, legend, pre, code, a, h1, h2, h3, h4, h5, h6, p, ul, ol, li, dl, dt, dd, blockquote, figcaption, figure, textarea, table, td, th, tr, input[type=\"email\"], input[type=\"number\"], input[type=\"password\"], input[type=\"tel\"], input[type=\"text\"], input[type=\"url\"], .border-box \x7b box-sizing: border-box; \x7d",
  "/*",
  "",
  "   ASPECT RATIOS",
  "",
  "*/",
  ".aspect-ratio \x7b height: 0; position: relative; \x7d",
  ".aspect-ratio--16x9 \x7b padding-bottom: 56.25%; \x7d",
  ".aspect-ratio--9x16 \x7b padding-bottom: 177.77%; \x7d",
  ".aspect-ratio--4x3 \x7b padding-bottom: 75%; \x7d",
  ".aspect-ratio--3x4 \x7b padding-bottom: 133.33%; \x7d",
  ".aspect-ratio--6x4 \x7b padding-bottom: 66.6%; \x7d",
  ".aspect-ratio--4x6 \x7b padding-bottom: 150%; \x7d",
  ".aspect-ratio--8x5 \x7b padding-bottom: 62.5%; \x7d",
  ".aspect-ratio--5x8 \x7b padding-bottom: 160%; \x7d",
  ".aspect-ratio--7x5 \x7b padding-bottom: 71.42%; \x7d",
  ".aspect-ratio--5x7 \x7b padding-bottom: 140%; \x7d",
  ".aspect-ratio--1x1 \x7b padding-bottom: 100%; \x7d",
  ".aspect-ratio--object \x7b position: absolute; top: 0; right: 0; bottom: 0; left: 0; width: 100%; height: 100%; z-index: 100; \x7d",
  "/*",
  "",
  "   IMAGES",
  "",
  "*/",
  "img \x7b max-width: 100%; \x7d",
  "/*",
  "",
  "   BACKGROUND SIZE",
  "",
  "*/",
  ".cover \x7b background-size: cover !important; \x7d",
  ".contain \x7b background-size: contain !important; \x7d",
  "/*",
  "",
  "   BACKGROUND POSITION",
  "",
  "*/",
  ".bg-center \x7b background-repeat: no-repeat; background-position: center center; \x7d",
  ".bg-top \x7b background-repeat: no-repeat; background-position: top center; \x7d",
  ".bg-right \x7b background-repeat: no-repeat; background-position: center right; \x7d",
  ".bg-bottom \x7b background-repeat: no-repeat; background-position: bottom center; \x7d",
  ".bg-left \x7b background-repeat: no-repeat; background-position: center left; \x7d",
  "/*",
  "",
  "   OUTLINES",
  "",
  "*/",
  ".outline \x7b outline: 1px solid; \x7d",
  ".outline-transparent \x7b outline: 1px solid transparent; \x7d",
  ".outline-0 \x7b outline: 0; \x7d",
  "/*",
  "",
  "   BORDERS",
  "",
  "*/",
  ".ba \x7b border-style: solid; border-width: 1px; \x7d",
  ".bt \x7b border-top-style: solid; border-top-width: 1px; \x7d",
  ".br \x7b border-right-style: solid; border-right-width: 1px; \x7d",
  ".bb \x7b border-bottom-style: solid; border-bottom-width: 1px; \x7d",
  ".bl \x7b border-left-style: solid; border-left-width: 1px; \x7d",
  ".bn \x7b border-style: none; border-width: 0; \x7d",
  "/*",
  "",
  "   BORDER COLORS",
  "",
  "*/",
  ".b--black \x7b border-color: #000; \x7d",
  ".b--near-black \x7b border-color: #111; \x7d",
  ".b--dark-gray \x7b border-color: #333; \x7d",
  ".b--mid-gray \x7b border-color: #555; \x7d",
  ".b--gray \x7b border-color: #777; \x7d",
  ".b--silver \x7b border-color: #999; \x7d",
  ".b--light-silver \x7b border-color: #aaa; \x7d",
  ".b--moon-gray \x7b border-color: #ccc; \x7d",
  ".b--light-gray \x7b border-color: #eee; \x7d",
  ".b--near-white \x7b border-color: #f4f4f4; \x7d",
  ".b--white \x7b border-color: #fff; \x7d",
  ".b--white-90 \x7b border-color: rgba( 255, 255, 255, .9 ); \x7d",
  ".b--white-80 \x7b border-color: rgba( 255, 255, 255, .8 ); \x7d",
  ".b--white-70 \x7b border-color: rgba( 255, 255, 255, .7 ); \x7d",
  ".b--white-60 \x7b border-color: rgba( 255, 255, 255, .6 ); \x7d",
  ".b--white-50 \x7b border-color: rgba( 255, 255, 255, .5 ); \x7d",
  ".b--white-40 \x7b border-color: rgba( 255, 255, 255, .4 ); \x7d",
  ".b--white-30 \x7b border-color: rgba( 255, 255, 255, .3 ); \x7d",
  ".b--white-20 \x7b border-color: rgba( 255, 255, 255, .2 ); \x7d",
  ".b--white-10 \x7b border-color: rgba( 255, 255, 255, .1 ); \x7d",
  ".b--white-05 \x7b border-color: rgba( 255, 255, 255, .05 ); \x7d",
  ".b--white-025 \x7b border-color: rgba( 255, 255, 255, .025 ); \x7d",
  ".b--white-0125 \x7b border-color: rgba( 255, 255, 255, .0125 ); \x7d",
  ".b--black-90 \x7b border-color: rgba( 0, 0, 0, .9 ); \x7d",
  ".b--black-80 \x7b border-color: rgba( 0, 0, 0, .8 ); \x7d",
  ".b--black-70 \x7b border-color: rgba( 0, 0, 0, .7 ); \x7d",
  ".b--black-60 \x7b border-color: rgba( 0, 0, 0, .6 ); \x7d",
  ".b--black-50 \x7b border-color: rgba( 0, 0, 0, .5 ); \x7d",
  ".b--black-40 \x7b border-color: rgba( 0, 0, 0, .4 ); \x7d",
  ".b--black-30 \x7b border-color: rgba( 0, 0, 0, .3 ); \x7d",
  ".b--black-20 \x7b border-color: rgba( 0, 0, 0, .2 ); \x7d",
  ".b--black-10 \x7b border-color: rgba( 0, 0, 0, .1 ); \x7d",
  ".b--black-05 \x7b border-color: rgba( 0, 0, 0, .05 ); \x7d",
  ".b--black-025 \x7b border-color: rgba( 0, 0, 0, .025 ); \x7d",
  ".b--black-0125 \x7b border-color: rgba( 0, 0, 0, .0125 ); \x7d",
  ".b--dark-red \x7b border-color: #e7040f; \x7d",
  ".b--red \x7b border-color: #ff4136; \x7d",
  ".b--light-red \x7b border-color: #ff725c; \x7d",
  ".b--orange \x7b border-color: #ff6300; \x7d",
  ".b--gold \x7b border-color: #ffb700; \x7d",
  ".b--yellow \x7b border-color: #ffd700; \x7d",
  ".b--light-yellow \x7b border-color: #fbf1a9; \x7d",
  ".b--purple \x7b border-color: #5e2ca5; \x7d",
  ".b--light-purple \x7b border-color: #a463f2; \x7d",
  ".b--dark-pink \x7b border-color: #d5008f; \x7d",
  ".b--hot-pink \x7b border-color: #ff41b4; \x7d",
  ".b--pink \x7b border-color: #ff80cc; \x7d",
  ".b--light-pink \x7b border-color: #ffa3d7; \x7d",
  ".b--dark-green \x7b border-color: #137752; \x7d",
  ".b--green \x7b border-color: #19a974; \x7d",
  ".b--light-green \x7b border-color: #9eebcf; \x7d",
  ".b--navy \x7b border-color: #001b44; \x7d",
  ".b--dark-blue \x7b border-color: #00449e; \x7d",
  ".b--blue \x7b border-color: #357edd; \x7d",
  ".b--light-blue \x7b border-color: #96ccff; \x7d",
  ".b--lightest-blue \x7b border-color: #cdecff; \x7d",
  ".b--washed-blue \x7b border-color: #f6fffe; \x7d",
  ".b--washed-green \x7b border-color: #e8fdf5; \x7d",
  ".b--washed-yellow \x7b border-color: #fffceb; \x7d",
  ".b--washed-red \x7b border-color: #ffdfdf; \x7d",
  ".b--transparent \x7b border-color: transparent; \x7d",
  ".b--inherit \x7b border-color: inherit; \x7d",
  ".b--initial \x7b border-color: initial; \x7d",
  ".b--unset \x7b border-color: unset; \x7d",
  "/*",
  "",
  "   BORDER RADIUS",
  "",
  "*/",
  ".br0 \x7b border-radius: 0; \x7d",
  ".br1 \x7b border-radius: .125rem; \x7d",
  ".br2 \x7b border-radius: .25rem; \x7d",
  ".br3 \x7b border-radius: .5rem; \x7d",
  ".br4 \x7b border-radius: 1rem; \x7d",
  ".br-100 \x7b border-radius: 100%; \x7d",
  ".br-pill \x7b border-radius: 9999px; \x7d",
  ".br--bottom \x7b border-top-left-radius: 0; border-top-right-radius: 0; \x7d",
  ".br--top \x7b border-bottom-left-radius: 0; border-bottom-right-radius: 0; \x7d",
  ".br--right \x7b border-top-left-radius: 0; border-bottom-left-radius: 0; \x7d",
  ".br--left \x7b border-top-right-radius: 0; border-bottom-right-radius: 0; \x7d",
  ".br-inherit \x7b border-radius: inherit; \x7d",
  ".br-initial \x7b border-radius: initial; \x7d",
  ".br-unset \x7b border-radius: unset; \x7d",
  "/*",
  "",
  "   BORDER STYLES",
  "",
  "*/",
  ".b--dotted \x7b border-style: dotted; \x7d",
  ".b--dashed \x7b border-style: dashed; \x7d",
  ".b--solid \x7b border-style: solid; \x7d",
  ".b--none \x7b border-style: none; \x7d",
  "/*",
  "",
  "   BORDER WIDTHS",
  "",
  "*/",
  ".bw0 \x7b border-width: 0; \x7d",
  ".bw1 \x7b border-width: .125rem; \x7d",
  ".bw2 \x7b border-width: .25rem; \x7d",
  ".bw3 \x7b border-width: .5rem; \x7d",
  ".bw4 \x7b border-width: 1rem; \x7d",
  ".bw5 \x7b border-width: 2rem; \x7d",
  ".bt-0 \x7b border-top-width: 0; \x7d",
  ".br-0 \x7b border-right-width: 0; \x7d",
  ".bb-0 \x7b border-bottom-width: 0; \x7d",
  ".bl-0 \x7b border-left-width: 0; \x7d",
  "/*",
  "",
  "   BOX-SHADOW",
  "",
  "*/",
  ".shadow-1 \x7b box-shadow: 0px 0px 4px 2px rgba( 0, 0, 0, 0.2 ); \x7d",
  ".shadow-2 \x7b box-shadow: 0px 0px 8px 2px rgba( 0, 0, 0, 0.2 ); \x7d",
  ".shadow-3 \x7b box-shadow: 2px 2px 4px 2px rgba( 0, 0, 0, 0.2 ); \x7d",
  ".shadow-4 \x7b box-shadow: 2px 2px 8px 0px rgba( 0, 0, 0, 0.2 ); \x7d",
  ".shadow-5 \x7b box-shadow: 4px 4px 8px 0px rgba( 0, 0, 0, 0.2 ); \x7d"]

/-- Placement: code, coordinates, clearing, display, flexible boxes and floats. -/
def placement : List String := [
  "/*",
  "",
  "   CODE",
  "",
  "*/",
  ".pre \x7b overflow-x: auto; overflow-y: hidden; overflow: scroll; \x7d",
  "/*",
  "",
  "   COORDINATES",
  "",
  "*/",
  ".top-0 \x7b top: 0; \x7d",
  ".right-0 \x7b right: 0; \x7d",
  ".bottom-0 \x7b bottom: 0; \x7d",
  ".left-0 \x7b left: 0; \x7d",
  ".top-1 \x7b top: 1rem; \x7d",
  ".right-1 \x7b right: 1rem; \x7d",
  ".bottom-1 \x7b bottom: 1rem; \x7d",
  ".left-1 \x7b left: 1rem; \x7d",
  ".top-2 \x7b top: 2rem; \x7d",
  ".right-2 \x7b right: 2rem; \x7d",
  ".bottom-2 \x7b bottom: 2rem; \x7d",
  ".left-2 \x7b left: 2rem; \x7d",
  ".top--1 \x7b top: -1rem; \x7d",
  ".right--1 \x7b right: -1rem; \x7d",
  ".bottom--1 \x7b bottom: -1rem; \x7d",
  ".left--1 \x7b left: -1rem; \x7d",
  ".top--2 \x7b top: -2rem; \x7d",
  ".right--2 \x7b right: -2rem; \x7d",
  ".bottom--2 \x7b bottom: -2rem; \x7d",
  ".left--2 \x7b left: -2rem; \x7d",
  ".absolute--fill \x7b top: 0; right: 0; bottom: 0; left: 0; \x7d",
  "/*",
  "",
  "   CLEARFIX",
  "",
  "*/",
  ".cf:before, .cf:after \x7b content: \" \"; display: table; \x7d",
  ".cf:after \x7b clear: both; \x7d",
  ".cf \x7b *zoom: 1; \x7d",
  ".cl \x7b clear: left; \x7d",
  ".cr \x7b clear: right; \x7d",
  ".cb \x7b clear: both; \x7d",
  ".cn \x7b clear: none; \x7d",
  "/*",
  "",
  "   DISPLAY",
  "",
  "*/",
  ".dn \x7b display: none; \x7d",
  ".di \x7b display: inline; \x7d",
  ".db \x7b display: block; \x7d",
  ".dib \x7b display: inline-block; \x7d",
  ".dit \x7b display: inline-table; \x7d",
  ".dt \x7b display: table; \x7d",
  ".dtc \x7b display: table-cell; \x7d",
  ".dt-row \x7b display: table-row; \x7d",
  ".dt-row-group \x7b display: table-row-group; \x7d",
  ".dt-column \x7b display: table-column; \x7d",
  ".dt-column-group \x7b display: table-column-group; \x7d",
  ".dt--fixed \x7b table-layout: fixed; width: 100%; \x7d",
  "/*",
  "",
  "   FLEXBOX",
  "",
  "*/",
  ".flex \x7b display: flex; \x7d",
  ".inline-flex \x7b display: inline-flex; \x7d",
  ".flex-auto \x7b flex: 1 1 auto; min-width: 0; /* 1 */ min-height: 0; /* 1 */ \x7d",
  ".flex-none \x7b flex: none; \x7d",
  ".flex-column \x7b flex-direction: column; \x7d",
  ".flex-row \x7b flex-direction: row; \x7d",
  ".flex-wrap \x7b flex-wrap: wrap; \x7d",
  ".flex-nowrap \x7b flex-wrap: nowrap; \x7d",
  ".flex-wrap-reverse \x7b flex-wrap: wrap-reverse; \x7d",
  ".flex-column-reverse \x7b flex-direction: column-reverse; \x7d",
  ".flex-row-reverse \x7b flex-direction: row-reverse; \x7d",
  ".items-start \x7b align-items: flex-start; \x7d",
  ".items-end \x7b align-items: flex-end; \x7d",
  ".items-center \x7b align-items: center; \x7d",
  ".items-baseline \x7b align-items: baseline; \x7d",
  ".items-stretch \x7b align-items: stretch; \x7d",
  ".self-start \x7b align-self: flex-start; \x7d",
  ".self-end \x7b align-self: flex-end; \x7d",
  ".self-center \x7b align-self: center; \x7d",
  ".self-baseline \x7b align-self: baseline; \x7d",
  ".self-stretch \x7b align-self: stretch; \x7d",
  ".justify-start \x7b justify-content: flex-start; \x7d",
  ".justify-end \x7b justify-content: flex-end; \x7d",
  ".justify-center \x7b justify-content: center; \x7d",
  ".justify-between \x7b justify-content: space-between; \x7d",
  ".justify-around \x7b justify-content: space-around; \x7d",
  ".content-start \x7b align-content: flex-start; \x7d",
  ".content-end \x7b align-content: flex-end; \x7d",
  ".content-center \x7b align-content: center; \x7d",
  ".content-between \x7b align-content: space-between; \x7d",
  ".content-around \x7b align-content: space-around; \x7d",
  ".content-stretch \x7b align-content: stretch; \x7d",
  ".order-0 \x7b order: 0; \x7d",
  ".order-1 \x7b order: 1; \x7d",
  ".order-2 \x7b order: 2; \x7d",
  ".order-3 \x7b order: 3; \x7d",
  ".order-4 \x7b order: 4; \x7d",
  ".order-5 \x7b order: 5; \x7d",
  ".order-6 \x7b order: 6; \x7d",
  ".order-7 \x7b order: 7; \x7d",
  ".order-8 \x7b order: 8; \x7d",
  ".order-last \x7b order: 99999; \x7d",
  ".flex-grow-0 \x7b flex-grow: 0; \x7d",
  ".flex-grow-1 \x7b flex-grow: 1; \x7d",
  ".flex-shrink-0 \x7b flex-shrink: 0; \x7d",
  ".flex-shrink-1 \x7b flex-shrink: 1; \x7d",
  "/*",
  "",
  "   FLOATS",
  "",
  "*/",
  ".fl \x7b float: left; _display: inline; \x7d",
  ".fr \x7b float: right; _display: inline; \x7d",
  ".fn \x7b float: none; \x7d"]

/-- Lettering: fonts, forms, heights, spacing of letters and lines, links and lists. -/
def lettering : List String := [
  "/*",
  "",
  "   FONT FAMILY GROUPS",
  "",
  "*/",
  ".sans-serif \x7b font-family: -apple-system, BlinkMacSystemFont, 'avenir next', avenir, 'helvetica neue', helvetica, ubuntu, roboto, noto, 'segoe ui', arial, sans-serif; \x7d",
  ".serif \x7b font-family: georgia, times, serif; \x7d",
  ".system-sans-serif \x7b font-family: sans-serif; \x7d",
  ".system-serif \x7b font-family: serif; \x7d",
  "code, .code \x7b font-family: Consolas, monaco, monospace; \x7d",
  ".courier \x7b font-family: 'Courier Next', courier, monospace; \x7d",
  ".helvetica \x7b font-family: 'helvetica neue', helvetica, sans-serif; \x7d",
  ".avenir \x7b font-family: 'avenir next', avenir, sans-serif; \x7d",
  ".athelas \x7b font-family: athelas, georgia, serif; \x7d",
  ".georgia \x7b font-family: georgia, serif; \x7d",
  ".times \x7b font-family: times, serif; \x7d",
  ".bodoni \x7b font-family: \"Bodoni MT\", serif; \x7d",
  ".calisto \x7b font-family: \"Calisto MT\", serif; \x7d",
  ".garamond \x7b font-family: garamond, serif; \x7d",
  ".baskerville \x7b font-family: baskerville, serif; \x7d",
  "/*",
  "",
  "   FONT STYLE",
  "",
  "*/",
  ".i \x7b font-style: italic; \x7d",
  ".fs-normal \x7b font-style: normal; \x7d",
  "/*",
  "",
  "   FONT WEIGHT",
  "",
  "*/",
  ".normal \x7b font-weight: normal; \x7d",
  ".b \x7b font-weight: bold; \x7d",
  ".fw1 \x7b font-weight: 100; \x7d",
  ".fw2 \x7b font-weight: 200; \x7d",
  ".fw3 \x7b font-weight: 300; \x7d",
  ".fw4 \x7b font-weight: 400; \x7d",
  ".fw5 \x7b font-weight: 500; \x7d",
  ".fw6 \x7b font-weight: 600; \x7d",
  ".fw7 \x7b font-weight: 700; \x7d",
  ".fw8 \x7b font-weight: 800; \x7d",
  ".fw9 \x7b font-weight: 900; \x7d",
  "/*",
  "",
  "   FORMS",
  "",
  "*/",
  ".input-reset \x7b -webkit-appearance: none; -moz-appearance: none; \x7d",
  ".button-reset::-moz-focus-inner, .input-reset::-moz-focus-inner \x7b border: 0; padding: 0; \x7d",
  "/*",
  "",
  "   HEIGHTS",
  "",
  "*/",
  ".h1 \x7b height: 1rem; \x7d",
  ".h2 \x7b height: 2rem; \x7d",
  ".h3 \x7b height: 4rem; \x7d",
  ".h4 \x7b height: 8rem; \x7d",
  ".h5 \x7b height: 16rem; \x7d",
  ".h-25 \x7b height: 25%; \x7d",
  ".h-50 \x7b height: 50%; \x7d",
  ".h-75 \x7b height: 75%; \x7d",
  ".h-100 \x7b height: 100%; \x7d",
  ".min-h-100 \x7b min-height: 100%; \x7d",
  ".vh-25 \x7b height: 25vh; \x7d",
  ".vh-50 \x7b height: 50vh; \x7d",
  ".vh-75 \x7b height: 75vh; \x7d",
  ".vh-100 \x7b height: 100vh; \x7d",
  ".min-vh-100 \x7b min-height: 100vh; \x7d",
  ".h-auto \x7b height: auto; \x7d",
  ".h-inherit \x7b height: inherit; \x7d",
  "/*",
  "",
  "   LETTER SPACING",
  "",
  "*/",
  ".tracked \x7b letter-spacing: .1em; \x7d",
  ".tracked-tight \x7b letter-spacing: -.05em; \x7d",
  ".tracked-mega \x7b letter-spacing: .25em; \x7d",
  "/*",
  "",
  "   LINE HEIGHT / LEADING",
  "",
  "*/",
  ".lh-solid \x7b line-height: 1; \x7d",
  ".lh-title \x7b line-height: 1.25; \x7d",
  ".lh-copy \x7b line-height: 1.5; \x7d",
  "/*",
  "",
  "   LINKS",
  "",
  "*/",
  ".link \x7b text-decoration: none; transition: color .15s ease-in; \x7d",
  ".link:link, .link:visited \x7b transition: color .15s ease-in; \x7d",
  ".link:hover \x7b transition: color .15s ease-in; \x7d",
  ".link:active \x7b transition: color .15s ease-in; \x7d",
  ".link:focus \x7b transition: color .15s ease-in; outline: 1px dotted currentColor; \x7d",
  "/*",
  "",
  "   LISTS",
  "",
  "*/",
  ".list \x7b list-style-type: none; \x7d"]

/-- Extents: widths, overflow, positions, opacity and rotations. -/
def extents : List String := [
  "/*",
  "",
  "   MAX WIDTHS",
  "",
  "*/",
  ".mw-100 \x7b max-width: 100%; \x7d",
  ".mw1 \x7b max-width: 1rem; \x7d",
  ".mw2 \x7b max-width: 2rem; \x7d",
  ".mw3 \x7b max-width: 4rem; \x7d",
  ".mw4 \x7b max-width: 8rem; \x7d",
  ".mw5 \x7b max-width: 16rem; \x7d",
  ".mw6 \x7b max-width: 32rem; \x7d",
  ".mw7 \x7b max-width: 48rem; \x7d",
  ".mw8 \x7b max-width: 64rem; \x7d",
  ".mw9 \x7b max-width: 96rem; \x7d",
  ".mw-none \x7b max-width: none; \x7d",
  "/*",
  "",
  "   WIDTHS",
  "",
  "*/",
  ".w1 \x7b width: 1rem; \x7d",
  ".w2 \x7b width: 2rem; \x7d",
  ".w3 \x7b width: 4rem; \x7d",
  ".w4 \x7b width: 8rem; \x7d",
  ".w5 \x7b width: 16rem; \x7d",
  ".w-10 \x7b width: 10%; \x7d",
  ".w-20 \x7b width: 20%; \x7d",
  ".w-25 \x7b width: 25%; \x7d",
  ".w-30 \x7b width: 30%; \x7d",
  ".w-33 \x7b width: 33%; \x7d",
  ".w-34 \x7b width: 34%; \x7d",
  ".w-40 \x7b width: 40%; \x7d",
  ".w-50 \x7b width: 50%; \x7d",
  ".w-60 \x7b width: 60%; \x7d",
  ".w-70 \x7b width: 70%; \x7d",
  ".w-75 \x7b width: 75%; \x7d",
  ".w-80 \x7b width: 80%; \x7d",
  ".w-90 \x7b width: 90%; \x7d",
  ".w-100 \x7b width: 100%; \x7d",
  ".w-third \x7b width: calc( 100% / 3 ); \x7d",
  ".w-two-thirds \x7b width: calc( 100% / 1.5 ); \x7d",
  ".w-auto \x7b width: auto; \x7d",
  "/*",
  "",
  "   OVERFLOW",
  "",
  "*/",
  ".overflow-visible \x7b overflow: visible; \x7d",
  ".overflow-hidden \x7b overflow: hidden; \x7d",
  ".overflow-scroll \x7b overflow: scroll; \x7d",
  ".overflow-auto \x7b overflow: auto; \x7d",
  ".overflow-x-visible \x7b overflow-x: visible; \x7d",
  ".overflow-x-hidden \x7b overflow-x: hidden; \x7d",
  ".overflow-x-scroll \x7b overflow-x: scroll; \x7d",
  ".overflow-x-auto \x7b overflow-x: auto; \x7d",
  ".overflow-y-visible \x7b overflow-y: visible; \x7d",
  ".overflow-y-hidden \x7b overflow-y: hidden; \x7d",
  ".overflow-y-scroll \x7b overflow-y: scroll; \x7d",
  ".overflow-y-auto \x7b overflow-y: auto; \x7d",
  "/*",
  "",
  "   POSITIONING",
  "",
  "*/",
  ".static \x7b position: static; \x7d",
  ".relative \x7b position: relative; \x7d",
  ".absolute \x7b position: absolute; \x7d",
  ".fixed \x7b position: fixed; \x7d",
  "/*",
  "",
  "   OPACITY",
  "",
  "*/",
  ".o-100 \x7b opacity: 1; \x7d",
  ".o-90 \x7b opacity: .9; \x7d",
  ".o-80 \x7b opacity: .8; \x7d",
  ".o-70 \x7b opacity: .7; \x7d",
  ".o-60 \x7b opacity: .6; \x7d",
  ".o-50 \x7b opacity: .5; \x7d",
  ".o-40 \x7b opacity: .4; \x7d",
  ".o-30 \x7b opacity: .3; \x7d",
  ".o-20 \x7b opacity: .2; \x7d",
  ".o-10 \x7b opacity: .1; \x7d",
  ".o-05 \x7b opacity: .05; \x7d",
  ".o-025 \x7b opacity: .025; \x7d",
  ".o-0 \x7b opacity: 0; \x7d",
  "/*",
  "",
  "   ROTATIONS",
  "",
  "*/",
  ".rotate-45 \x7b -webkit-transform: rotate( 45deg ); transform: rotate( 45deg ); \x7d",
  ".rotate-90 \x7b -webkit-transform: rotate( 90deg ); transform: rotate( 90deg ); \x7d",
  ".rotate-135 \x7b -webkit-transform: rotate( 135deg ); transform: rotate( 135deg ); \x7d",
  ".rotate-180 \x7b -webkit-transform: rotate( 180deg ); transform: rotate( 180deg ); \x7d",
  ".rotate-225 \x7b -webkit-transform: rotate( 225deg ); transform: rotate( 225deg ); \x7d",
  ".rotate-270 \x7b -webkit-transform: rotate( 270deg ); transform: rotate( 270deg ); \x7d",
  ".rotate-315 \x7b -webkit-transform: rotate( 315deg ); transform: rotate( 315deg ); \x7d",
  "/*",
  ""]

/-- Skins: colors of text and backgrounds, also under the pointer. -/
def skins : List String := [
  "   SKINS",
  "",
  "*/",
  ".black-90 \x7b color: rgba( 0, 0, 0, .9 ); \x7d",
  ".black-80 \x7b color: rgba( 0, 0, 0, .8 ); \x7d",
  ".black-70 \x7b color: rgba( 0, 0, 0, .7 ); \x7d",
  ".black-60 \x7b color: rgba( 0, 0, 0, .6 ); \x7d",
  ".black-50 \x7b color: rgba( 0, 0, 0, .5 ); \x7d",
  ".black-40 \x7b color: rgba( 0, 0, 0, .4 ); \x7d",
  ".black-30 \x7b color: rgba( 0, 0, 0, .3 ); \x7d",
  ".black-20 \x7b color: rgba( 0, 0, 0, .2 ); \x7d",
  ".black-10 \x7b color: rgba( 0, 0, 0, .1 ); \x7d",
  ".black-05 \x7b color: rgba( 0, 0, 0, .05 ); \x7d",
  ".black-025 \x7b color: rgba( 0, 0, 0, .025 ); \x7d",
  ".black-0125 \x7b color: rgba( 0, 0, 0, .0125 ); \x7d",
  ".white-90 \x7b color: rgba( 255, 255, 255, .9 ); \x7d",
  ".white-80 \x7b color: rgba( 255, 255, 255, .8 ); \x7d",
  ".white-70 \x7b color: rgba( 255, 255, 255, .7 ); \x7d",
  ".white-60 \x7b color: rgba( 255, 255, 255, .6 ); \x7d",
  ".white-50 \x7b color: rgba( 255, 255, 255, .5 ); \x7d",
  ".white-40 \x7b color: rgba( 255, 255, 255, .4 ); \x7d",
  ".white-30 \x7b color: rgba( 255, 255, 255, .3 ); \x7d",
  ".white-20 \x7b color: rgba( 255, 255, 255, .2 ); \x7d",
  ".white-10 \x7b color: rgba( 255, 255, 255, .1 ); \x7d",
  ".white-05 \x7b color: rgba( 255, 255, 255, .05 ); \x7d",
  ".white-025 \x7b color: rgba( 255, 255, 255, .025 ); \x7d",
  ".white-0125 \x7b color: rgba( 255, 255, 255, .0125 ); \x7d",
  ".black \x7b color: #000; \x7d",
  ".near-black \x7b color: #111; \x7d",
  ".dark-gray \x7b color: #333; \x7d",
  ".mid-gray \x7b color: #555; \x7d",
  ".gray \x7b color: #777; \x7d",
  ".silver \x7b color: #999; \x7d",
  ".light-silver \x7b color: #aaa; \x7d",
  ".moon-gray \x7b color: #ccc; \x7d",
  ".light-gray \x7b color: #eee; \x7d",
  ".near-white \x7b color: #f4f4f4; \x7d",
  ".white \x7b color: #fff; \x7d",
  ".dark-red \x7b color: #e7040f; \x7d",
  ".red \x7b color: #ff4136; \x7d",
  ".light-red \x7b color: #ff725c; \x7d",
  ".orange \x7b color: #ff6300; \x7d",
  ".gold \x7b color: #ffb700; \x7d",
  ".yellow \x7b color: #ffd700; \x7d",
  ".light-yellow \x7b color: #fbf1a9; \x7d",
  ".purple \x7b color: #5e2ca5; \x7d",
  ".light-purple \x7b color: #a463f2; \x7d",
  ".dark-pink \x7b color: #d5008f; \x7d",
  ".hot-pink \x7b color: #ff41b4; \x7d",
  ".pink \x7b color: #ff80cc; \x7d",
  ".light-pink \x7b color: #ffa3d7; \x7d",
  ".dark-green \x7b color: #137752; \x7d",
  ".green \x7b color: #19a974; \x7d",
  ".light-green \x7b color: #9eebcf; \x7d",
  ".navy \x7b color: #001b44; \x7d",
  ".dark-blue \x7b color: #00449e; \x7d",
  ".blue \x7b color: #357edd; \x7d",
  ".light-blue \x7b color: #96ccff; \x7d",
  ".lightest-blue \x7b color: #cdecff; \x7d",
  ".washed-blue \x7b color: #f6fffe; \x7d",
  ".washed-green \x7b color: #e8fdf5; \x7d",
  ".washed-yellow \x7b color: #fffceb; \x7d",
  ".washed-red \x7b color: #ffdfdf; \x7d",
  ".bg-black-90 \x7b background-color: rgba( 0, 0, 0, .9 ); \x7d",
  ".bg-black-80 \x7b background-color: rgba( 0, 0, 0, .8 ); \x7d",
  ".bg-black-70 \x7b background-color: rgba( 0, 0, 0, .7 ); \x7d",
  ".bg-black-60 \x7b background-color: rgba( 0, 0, 0, .6 ); \x7d",
  ".bg-black-50 \x7b background-color: rgba( 0, 0, 0, .5 ); \x7d",
  ".bg-black-40 \x7b background-color: rgba( 0, 0, 0, .4 ); \x7d",
  ".bg-black-30 \x7b background-color: rgba( 0, 0, 0, .3 ); \x7d",
  ".bg-black-20 \x7b background-color: rgba( 0, 0, 0, .2 ); \x7d",
  ".bg-black-10 \x7b background-color: rgba( 0, 0, 0, .1 ); \x7d",
  ".bg-black-05 \x7b background-color: rgba( 0, 0, 0, .05 ); \x7d",
  ".bg-black-025 \x7b background-color: rgba( 0, 0, 0, .025 ); \x7d",
  ".bg-black-0125 \x7b background-color: rgba( 0, 0, 0, .0125 ); \x7d",
  ".bg-white-90 \x7b background-color: rgba( 255, 255, 255, .9 ); \x7d",
  ".bg-white-80 \x7b background-color: rgba( 255, 255, 255, .8 ); \x7d",
  ".bg-white-70 \x7b background-color: rgba( 255, 255, 255, .7 ); \x7d",
  ".bg-white-60 \x7b background-color: rgba( 255, 255, 255, .6 ); \x7d",
  ".bg-white-50 \x7b background-color: rgba( 255, 255, 255, .5 ); \x7d",
  ".bg-white-40 \x7b background-color: rgba( 255, 255, 255, .4 ); \x7d",
  ".bg-white-30 \x7b background-color: rgba( 255, 255, 255, .3 ); \x7d",
  ".bg-white-20 \x7b background-color: rgba( 255, 255, 255, .2 ); \x7d",
  ".bg-white-10 \x7b background-color: rgba( 255, 255, 255, .1 ); \x7d",
  ".bg-white-05 \x7b background-color: rgba( 255, 255, 255, .05 ); \x7d",
  ".bg-white-025 \x7b background-color: rgba( 255, 255, 255, .025 ); \x7d",
  ".bg-white-0125 \x7b background-color: rgba( 255, 255, 255, .0125 ); \x7d",
  ".bg-black \x7b background-color: #000; \x7d",
  ".bg-near-black \x7b background-color: #111; \x7d",
  ".bg-dark-gray \x7b background-color: #333; \x7d",
  ".bg-mid-gray \x7b background-color: #555; \x7d",
  ".bg-gray \x7b background-color: #777; \x7d",
  ".bg-silver \x7b background-color: #999; \x7d",
  ".bg-light-silver \x7b background-color: #aaa; \x7d",
  ".bg-moon-gray \x7b background-color: #ccc; \x7d",
  ".bg-light-gray \x7b background-color: #eee; \x7d",
  ".bg-near-white \x7b background-color: #f4f4f4; \x7d",
  ".bg-white \x7b background-color: #fff; \x7d",
  ".bg-dark-red \x7b background-color: #e7040f; \x7d",
  ".bg-red \x7b background-color: #ff4136; \x7d",
  ".bg-light-red \x7b background-color: #ff725c; \x7d",
  ".bg-orange \x7b background-color: #ff6300; \x7d",
  ".bg-gold \x7b background-color: #ffb700; \x7d",
  ".bg-yellow \x7b background-color: #ffd700; \x7d",
  ".bg-light-yellow \x7b background-color: #fbf1a9; \x7d",
  ".bg-purple \x7b background-color: #5e2ca5; \x7d",
  ".bg-light-purple \x7b background-color: #a463f2; \x7d",
  ".bg-dark-pink \x7b background-color: #d5008f; \x7d",
  ".bg-hot-pink \x7b background-color: #ff41b4; \x7d",
  ".bg-pink \x7b background-color: #ff80cc; \x7d",
  ".bg-light-pink \x7b background-color: #ffa3d7; \x7d",
  ".bg-dark-green \x7b background-color: #137752; \x7d",
  ".bg-green \x7b background-color: #19a974; \x7d",
  ".bg-light-green \x7b background-color: #9eebcf; \x7d",
  ".bg-navy \x7b background-color: #001b44; \x7d",
  ".bg-dark-blue \x7b background-color: #00449e; \x7d",
  ".bg-blue \x7b background-color: #357edd; \x7d",
  ".bg-light-blue \x7b background-color: #96ccff; \x7d",
  ".bg-lightest-blue \x7b background-color: #cdecff; \x7d",
  ".bg-washed-blue \x7b background-color: #f6fffe; \x7d",
  ".bg-washed-green \x7b background-color: #e8fdf5; \x7d",
  ".bg-washed-yellow \x7b background-color: #fffceb; \x7d",
  ".bg-washed-red \x7b background-color: #ffdfdf; \x7d",
  ".bg-transparent \x7b background-color: transparent; \x7d",
  ".color-inherit \x7b color: inherit; \x7d",
  ".bg-inherit \x7b background-color: inherit; \x7d",
  "/*",
  "",
  "   SKINS:PSEUDO",
  "",
  "*/",
  ".hover-black:hover, .hover-black:focus \x7b color: #000; \x7d",
  ".hover-near-black:hover, .hover-near-black:focus \x7b color: #111; \x7d",
  ".hover-dark-gray:hover, .hover-dark-gray:focus \x7b color: #333; \x7d",
  ".hover-mid-gray:hover, .hover-mid-gray:focus \x7b color: #555; \x7d",
  ".hover-gray:hover, .hover-gray:focus \x7b color: #777; \x7d",
  ".hover-silver:hover, .hover-silver:focus \x7b color: #999; \x7d",
  ".hover-light-silver:hover, .hover-light-silver:focus \x7b color: #aaa; \x7d",
  ".hover-moon-gray:hover, .hover-moon-gray:focus \x7b color: #ccc; \x7d",
  ".hover-light-gray:hover, .hover-light-gray:focus \x7b color: #eee; \x7d",
  ".hover-near-white:hover, .hover-near-white:focus \x7b color: #f4f4f4; \x7d",
  ".hover-white:hover, .hover-white:focus \x7b color: #fff; \x7d",
  ".hover-black-90:hover, .hover-black-90:focus \x7b color: rgba( 0, 0, 0, .9 ); \x7d",
  ".hover-black-80:hover, .hover-black-80:focus \x7b color: rgba( 0, 0, 0, .8 ); \x7d",
  ".hover-black-70:hover, .hover-black-70:focus \x7b color: rgba( 0, 0, 0, .7 ); \x7d",
  ".hover-black-60:hover, .hover-black-60:focus \x7b color: rgba( 0, 0, 0, .6 ); \x7d",
  ".hover-black-50:hover, .hover-black-50:focus \x7b color: rgba( 0, 0, 0, .5 ); \x7d",
  ".hover-black-40:hover, .hover-black-40:focus \x7b color: rgba( 0, 0, 0, .4 ); \x7d",
  ".hover-black-30:hover, .hover-black-30:focus \x7b color: rgba( 0, 0, 0, .3 ); \x7d",
  ".hover-black-20:hover, .hover-black-20:focus \x7b color: rgba( 0, 0, 0, .2 ); \x7d",
  ".hover-black-10:hover, .hover-black-10:focus \x7b color: rgba( 0, 0, 0, .1 ); \x7d",
  ".hover-black-05:hover, .hover-black-05:focus \x7b color: rgba( 0, 0, 0, .05 ); \x7d",
  ".hover-black-025:hover, .hover-black-025:focus \x7b color: rgba( 0, 0, 0, .025 ); \x7d",
  ".hover-white-90:hover, .hover-white-90:focus \x7b color: rgba( 255, 255, 255, .9 ); \x7d",
  ".hover-white-80:hover, .hover-white-80:focus \x7b color: rgba( 255, 255, 255, .8 ); \x7d",
  ".hover-white-70:hover, .hover-white-70:focus \x7b color: rgba( 255, 255, 255, .7 ); \x7d",
  ".hover-white-60:hover, .hover-white-60:focus \x7b color: rgba( 255, 255, 255, .6 ); \x7d",
  ".hover-white-50:hover, .hover-white-50:focus \x7b color: rgba( 255, 255, 255, .5 ); \x7d",
  ".hover-white-40:hover, .hover-white-40:focus \x7b color: rgba( 255, 255, 255, .4 ); \x7d",
  ".hover-white-30:hover, .hover-white-30:focus \x7b color: rgba( 255, 255, 255, .3 ); \x7d",
  ".hover-white-20:hover, .hover-white-20:focus \x7b color: rgba( 255, 255, 255, .2 ); \x7d",
  ".hover-white-10:hover, .hover-white-10:focus \x7b color: rgba( 255, 255, 255, .1 ); \x7d",
  ".hover-white-05:hover, .hover-white-05:focus \x7b color: rgba( 255, 255, 255, .05 ); \x7d",
  ".hover-white-025:hover, .hover-white-025:focus \x7b color: rgba( 255, 255, 255, .025 ); \x7d",
  ".hover-inherit:hover, .hover-inherit:focus \x7b color: inherit; \x7d",
  ".hover-bg-black:hover, .hover-bg-black:focus \x7b background-color: #000; \x7d",
  ".hover-bg-near-black:hover, .hover-bg-near-black:focus \x7b background-color: #111; \x7d",
  ".hover-bg-dark-gray:hover, .hover-bg-dark-gray:focus \x7b background-color: #333; \x7d",
  ".hover-bg-mid-gray:hover, .hover-bg-mid-gray:focus \x7b background-color: #555; \x7d",
  ".hover-bg-gray:hover, .hover-bg-gray:focus \x7b background-color: #777; \x7d",
  ".hover-bg-silver:hover, .hover-bg-silver:focus \x7b background-color: #999; \x7d",
  ".hover-bg-light-silver:hover, .hover-bg-light-silver:focus \x7b background-color: #aaa; \x7d",
  ".hover-bg-moon-gray:hover, .hover-bg-moon-gray:focus \x7b background-color: #ccc; \x7d",
  ".hover-bg-light-gray:hover, .hover-bg-light-gray:focus \x7b background-color: #eee; \x7d",
  ".hover-bg-near-white:hover, .hover-bg-near-white:focus \x7b background-color: #f4f4f4; \x7d",
  ".hover-bg-white:hover, .hover-bg-white:focus \x7b background-color: #fff; \x7d",
  ".hover-bg-black-90:hover, .hover-bg-black-90:focus \x7b background-color: rgba( 0, 0, 0, .9 ); \x7d",
  ".hover-bg-black-80:hover, .hover-bg-black-80:focus \x7b background-color: rgba( 0, 0, 0, .8 ); \x7d",
  ".hover-bg-black-70:hover, .hover-bg-black-70:focus \x7b background-color: rgba( 0, 0, 0, .7 ); \x7d",
  ".hover-bg-black-60:hover, .hover-bg-black-60:focus \x7b background-color: rgba( 0, 0, 0, .6 ); \x7d",
  ".hover-bg-black-50:hover, .hover-bg-black-50:focus \x7b background-color: rgba( 0, 0, 0, .5 ); \x7d",
  ".hover-bg-black-40:hover, .hover-bg-black-40:focus \x7b background-color: rgba( 0, 0, 0, .4 ); \x7d",
  ".hover-bg-black-30:hover, .hover-bg-black-30:focus \x7b background-color: rgba( 0, 0, 0, .3 ); \x7d",
  ".hover-bg-black-20:hover, .hover-bg-black-20:focus \x7b background-color: rgba( 0, 0, 0, .2 ); \x7d",
  ".hover-bg-black-10:hover, .hover-bg-black-10:focus \x7b background-color: rgba( 0, 0, 0, .1 ); \x7d",
  ".hover-bg-black-05:hover, .hover-bg-black-05:focus \x7b background-color: rgba( 0, 0, 0, .05 ); \x7d",
  ".hover-bg-black-025:hover, .hover-bg-black-025:focus \x7b background-color: rgba( 0, 0, 0, .025 ); \x7d",
  ".hover-bg-white-90:hover, .hover-bg-white-90:focus \x7b background-color: rgba( 255, 255, 255, .9 ); \x7d",
  ".hover-bg-white-80:hover, .hover-bg-white-80:focus \x7b background-color: rgba( 255, 255, 255, .8 ); \x7d",
  ".hover-bg-white-70:hover, .hover-bg-white-70:focus \x7b background-color: rgba( 255, 255, 255, .7 ); \x7d",
  ".hover-bg-white-60:hover, .hover-bg-white-60:focus \x7b background-color: rgba( 255, 255, 255, .6 ); \x7d",
  ".hover-bg-white-50:hover, .hover-bg-white-50:focus \x7b background-color: rgba( 255, 255, 255, .5 ); \x7d",
  ".hover-bg-white-40:hover, .hover-bg-white-40:focus \x7b background-color: rgba( 255, 255, 255, .4 ); \x7d",
  ".hover-bg-white-30:hover, .hover-bg-white-30:focus \x7b background-color: rgba( 255, 255, 255, .3 ); \x7d",
  ".hover-bg-white-20:hover, .hover-bg-white-20:focus \x7b background-color: rgba( 255, 255, 255, .2 ); \x7d",
  ".hover-bg-white-10:hover, .hover-bg-white-10:focus \x7b background-color: rgba( 255, 255, 255, .1 ); \x7d",
  ".hover-bg-white-05:hover, .hover-bg-white-05:focus \x7b background-color: rgba( 255, 255, 255, .05 ); \x7d",
  ".hover-bg-white-025:hover, .hover-bg-white-025:focus \x7b background-color: rgba( 255, 255, 255, .025 ); \x7d",
  ".hover-bg-transparent:hover, .hover-bg-transparent:focus \x7b background-color: transparent; \x7d",
  ".hover-dark-red:hover, .hover-dark-red:focus \x7b color: #e7040f; \x7d",
  ".hover-red:hover, .hover-red:focus \x7b color: #ff4136; \x7d",
  ".hover-light-red:hover, .hover-light-red:focus \x7b color: #ff725c; \x7d",
  ".hover-orange:hover, .hover-orange:focus \x7b color: #ff6300; \x7d",
  ".hover-gold:hover, .hover-gold:focus \x7b color: #ffb700; \x7d",
  ".hover-yellow:hover, .hover-yellow:focus \x7b color: #ffd700; \x7d",
  ".hover-light-yellow:hover, .hover-light-yellow:focus \x7b color: #fbf1a9; \x7d",
  ".hover-purple:hover, .hover-purple:focus \x7b color: #5e2ca5; \x7d",
  ".hover-light-purple:hover, .hover-light-purple:focus \x7b color: #a463f2; \x7d",
  ".hover-dark-pink:hover, .hover-dark-pink:focus \x7b color: #d5008f; \x7d",
  ".hover-hot-pink:hover, .hover-hot-pink:focus \x7b color: #ff41b4; \x7d",
  ".hover-pink:hover, .hover-pink:focus \x7b color: #ff80cc; \x7d",
  ".hover-light-pink:hover, .hover-light-pink:focus \x7b color: #ffa3d7; \x7d",
  ".hover-dark-green:hover, .hover-dark-green:focus \x7b color: #137752; \x7d",
  ".hover-green:hover, .hover-green:focus \x7b color: #19a974; \x7d",
  ".hover-light-green:hover, .hover-light-green:focus \x7b color: #9eebcf; \x7d",
  ".hover-navy:hover, .hover-navy:focus \x7b color: #001b44; \x7d",
  ".hover-dark-blue:hover, .hover-dark-blue:focus \x7b color: #00449e; \x7d",
  ".hover-blue:hover, .hover-blue:focus \x7b color: #357edd; \x7d",
  ".hover-light-blue:hover, .hover-light-blue:focus \x7b color: #96ccff; \x7d",
  ".hover-lightest-blue:hover, .hover-lightest-blue:focus \x7b color: #cdecff; \x7d",
  ".hover-washed-blue:hover, .hover-washed-blue:focus \x7b color: #f6fffe; \x7d",
  ".hover-washed-green:hover, .hover-washed-green:focus \x7b color: #e8fdf5; \x7d",
  ".hover-washed-yellow:hover, .hover-washed-yellow:focus \x7b color: #fffceb; \x7d",
  ".hover-washed-red:hover, .hover-washed-red:focus \x7b color: #ffdfdf; \x7d",
  ".hover-bg-dark-red:hover, .hover-bg-dark-red:focus \x7b background-color: #e7040f; \x7d",
  ".hover-bg-red:hover, .hover-bg-red:focus \x7b background-color: #ff4136; \x7d",
  ".hover-bg-light-red:hover, .hover-bg-light-red:focus \x7b background-color: #ff725c; \x7d",
  ".hover-bg-orange:hover, .hover-bg-orange:focus \x7b background-color: #ff6300; \x7d",
  ".hover-bg-gold:hover, .hover-bg-gold:focus \x7b background-color: #ffb700; \x7d",
  ".hover-bg-yellow:hover, .hover-bg-yellow:focus \x7b background-color: #ffd700; \x7d",
  ".hover-bg-light-yellow:hover, .hover-bg-light-yellow:focus \x7b background-color: #fbf1a9; \x7d",
  ".hover-bg-purple:hover, .hover-bg-purple:focus \x7b background-color: #5e2ca5; \x7d",
  ".hover-bg-light-purple:hover, .hover-bg-light-purple:focus \x7b background-color: #a463f2; \x7d",
  ".hover-bg-dark-pink:hover, .hover-bg-dark-pink:focus \x7b background-color: #d5008f; \x7d",
  ".hover-bg-hot-pink:hover, .hover-bg-hot-pink:focus \x7b background-color: #ff41b4; \x7d",
  ".hover-bg-pink:hover, .hover-bg-pink:focus \x7b background-color: #ff80cc; \x7d",
  ".hover-bg-light-pink:hover, .hover-bg-light-pink:focus \x7b background-color: #ffa3d7; \x7d",
  ".hover-bg-dark-green:hover, .hover-bg-dark-green:focus \x7b background-color: #137752; \x7d",
  ".hover-bg-green:hover, .hover-bg-green:focus \x7b background-color: #19a974; \x7d",
  ".hover-bg-light-green:hover, .hover-bg-light-green:focus \x7b background-color: #9eebcf; \x7d",
  ".hover-bg-navy:hover, .hover-bg-navy:focus \x7b background-color: #001b44; \x7d",
  ".hover-bg-dark-blue:hover, .hover-bg-dark-blue:focus \x7b background-color: #00449e; \x7d",
  ".hover-bg-blue:hover, .hover-bg-blue:focus \x7b background-color: #357edd; \x7d",
  ".hover-bg-light-blue:hover, .hover-bg-light-blue:focus \x7b background-color: #96ccff; \x7d",
  ".hover-bg-lightest-blue:hover, .hover-bg-lightest-blue:focus \x7b background-color: #cdecff; \x7d",
  ".hover-bg-washed-blue:hover, .hover-bg-washed-blue:focus \x7b background-color: #f6fffe; \x7d",
  ".hover-bg-washed-green:hover, .hover-bg-washed-green:focus \x7b background-color: #e8fdf5; \x7d",
  ".hover-bg-washed-yellow:hover, .hover-bg-washed-yellow:focus \x7b background-color: #fffceb; \x7d",
  ".hover-bg-washed-red:hover, .hover-bg-washed-red:focus \x7b background-color: #ffdfdf; \x7d",
  ".hover-bg-inherit:hover, .hover-bg-inherit:focus \x7b background-color: inherit; \x7d",
  "/*",
  ""]

/-- Spacing: paddings, margins and tables. -/
def spacing : List String := [
  "   SPACING",
  "",
  "*/",
  ".pa0 \x7b padding: 0; \x7d",
  ".pa1 \x7b padding: .25rem; \x7d",
  ".pa2 \x7b padding: .5rem; \x7d",
  ".pa3 \x7b padding: 1rem; \x7d",
  ".pa4 \x7b padding: 2rem; \x7d",
  ".pa5 \x7b padding: 4rem; \x7d",
  ".pa6 \x7b padding: 8rem; \x7d",
  ".pa7 \x7b padding: 16rem; \x7d",
  ".pl0 \x7b padding-left: 0; \x7d",
  ".pl1 \x7b padding-left: .25rem; \x7d",
  ".pl2 \x7b padding-left: .5rem; \x7d",
  ".pl3 \x7b padding-left: 1rem; \x7d",
  ".pl4 \x7b padding-left: 2rem; \x7d",
  ".pl5 \x7b padding-left: 4rem; \x7d",
  ".pl6 \x7b padding-left: 8rem; \x7d",
  ".pl7 \x7b padding-left: 16rem; \x7d",
  ".pr0 \x7b padding-right: 0; \x7d",
  ".pr1 \x7b padding-right: .25rem; \x7d",
  ".pr2 \x7b padding-right: .5rem; \x7d",
  ".pr3 \x7b padding-right: 1rem; \x7d",
  ".pr4 \x7b padding-right: 2rem; \x7d",
  ".pr5 \x7b padding-right: 4rem; \x7d",
  ".pr6 \x7b padding-right: 8rem; \x7d",
  ".pr7 \x7b padding-right: 16rem; \x7d",
  ".pb0 \x7b padding-bottom: 0; \x7d",
  ".pb1 \x7b padding-bottom: .25rem; \x7d",
  ".pb2 \x7b padding-bottom: .5rem; \x7d",
  ".pb3 \x7b padding-bottom: 1rem; \x7d",
  ".pb4 \x7b padding-bottom: 2rem; \x7d",
  ".pb5 \x7b padding-bottom: 4rem; \x7d",
  ".pb6 \x7b padding-bottom: 8rem; \x7d",
  ".pb7 \x7b padding-bottom: 16rem; \x7d",
  ".pt0 \x7b padding-top: 0; \x7d",
  ".pt1 \x7b padding-top: .25rem; \x7d",
  ".pt2 \x7b padding-top: .5rem; \x7d",
  ".pt3 \x7b padding-top: 1rem; \x7d",
  ".pt4 \x7b padding-top: 2rem; \x7d",
  ".pt5 \x7b padding-top: 4rem; \x7d",
  ".pt6 \x7b padding-top: 8rem; \x7d",
  ".pt7 \x7b padding-top: 16rem; \x7d",
  ".pv0 \x7b padding-top: 0; padding-bottom: 0; \x7d",
  ".pv1 \x7b padding-top: .25rem; padding-bottom: .25rem; \x7d",
  ".pv2 \x7b padding-top: .5rem; padding-bottom: .5rem; \x7d",
  ".pv3 \x7b padding-top: 1rem; padding-bottom: 1rem; \x7d",
  ".pv4 \x7b padding-top: 2rem; padding-bottom: 2rem; \x7d",
  ".pv5 \x7b padding-top: 4rem; padding-bottom: 4rem; \x7d",
  ".pv6 \x7b padding-top: 8rem; padding-bottom: 8rem; \x7d",
  ".pv7 \x7b padding-top: 16rem; padding-bottom: 16rem; \x7d",
  ".ph0 \x7b padding-left: 0; padding-right: 0; \x7d",
  ".ph1 \x7b padding-left: .25rem; padding-right: .25rem; \x7d",
  ".ph2 \x7b padding-left: .5rem; padding-right: .5rem; \x7d",
  ".ph3 \x7b padding-left: 1rem; padding-right: 1rem; \x7d",
  ".ph4 \x7b padding-left: 2rem; padding-right: 2rem; \x7d",
  ".ph5 \x7b padding-left: 4rem; padding-right: 4rem; \x7d",
  ".ph6 \x7b padding-left: 8rem; padding-right: 8rem; \x7d",
  ".ph7 \x7b padding-left: 16rem; padding-right: 16rem; \x7d",
  ".ma0 \x7b margin: 0; \x7d",
  ".ma1 \x7b margin: .25rem; \x7d",
  ".ma2 \x7b margin: .5rem; \x7d",
  ".ma3 \x7b margin: 1rem; \x7d",
  ".ma4 \x7b margin: 2rem; \x7d",
  ".ma5 \x7b margin: 4rem; \x7d",
  ".ma6 \x7b margin: 8rem; \x7d",
  ".ma7 \x7b margin: 16rem; \x7d",
  ".ml0 \x7b margin-left: 0; \x7d",
  ".ml1 \x7b margin-left: .25rem; \x7d",
  ".ml2 \x7b margin-left: .5rem; \x7d",
  ".ml3 \x7b margin-left: 1rem; \x7d",
  ".ml4 \x7b margin-left: 2rem; \x7d",
  ".ml5 \x7b margin-left: 4rem; \x7d",
  ".ml6 \x7b margin-left: 8rem; \x7d",
  ".ml7 \x7b margin-left: 16rem; \x7d",
  ".mr0 \x7b margin-right: 0; \x7d",
  ".mr1 \x7b margin-right: .25rem; \x7d",
  ".mr2 \x7b margin-right: .5rem; \x7d",
  ".mr3 \x7b margin-right: 1rem; \x7d",
  ".mr4 \x7b margin-right: 2rem; \x7d",
  ".mr5 \x7b margin-right: 4rem; \x7d",
  ".mr6 \x7b margin-right: 8rem; \x7d",
  ".mr7 \x7b margin-right: 16rem; \x7d",
  ".mb0 \x7b margin-bottom: 0; \x7d",
  ".mb1 \x7b margin-bottom: .25rem; \x7d",
  ".mb2 \x7b margin-bottom: .5rem; \x7d",
  ".mb3 \x7b margin-bottom: 1rem; \x7d",
  ".mb4 \x7b margin-bottom: 2rem; \x7d",
  ".mb5 \x7b margin-bottom: 4rem; \x7d",
  ".mb6 \x7b margin-bottom: 8rem; \x7d",
  ".mb7 \x7b margin-bottom: 16rem; \x7d",
  ".mt0 \x7b margin-top: 0; \x7d",
  ".mt1 \x7b margin-top: .25rem; \x7d",
  ".mt2 \x7b margin-top: .5rem; \x7d",
  ".mt3 \x7b margin-top: 1rem; \x7d",
  ".mt4 \x7b margin-top: 2rem; \x7d",
  ".mt5 \x7b margin-top: 4rem; \x7d",
  ".mt6 \x7b margin-top: 8rem; \x7d",
  ".mt7 \x7b margin-top: 16rem; \x7d",
  ".mv0 \x7b margin-top: 0; margin-bottom: 0; \x7d",
  ".mv1 \x7b margin-top: .25rem; margin-bottom: .25rem; \x7d",
  ".mv2 \x7b margin-top: .5rem; margin-bottom: .5rem; \x7d",
  ".mv3 \x7b margin-top: 1rem; margin-bottom: 1rem; \x7d",
  ".mv4 \x7b margin-top: 2rem; margin-bottom: 2rem; \x7d",
  ".mv5 \x7b margin-top: 4rem; margin-bottom: 4rem; \x7d",
  ".mv6 \x7b margin-top: 8rem; margin-bottom: 8rem; \x7d",
  ".mv7 \x7b margin-top: 16rem; margin-bottom: 16rem; \x7d",
  ".mh0 \x7b margin-left: 0; margin-right: 0; \x7d",
  ".mh1 \x7b margin-left: .25rem; margin-right: .25rem; \x7d",
  ".mh2 \x7b margin-left: .5rem; margin-right: .5rem; \x7d",
  ".mh3 \x7b margin-left: 1rem; margin-right: 1rem; \x7d",
  ".mh4 \x7b margin-left: 2rem; margin-right: 2rem; \x7d",
  ".mh5 \x7b margin-left: 4rem; margin-right: 4rem; \x7d",
  ".mh6 \x7b margin-left: 8rem; margin-right: 8rem; \x7d",
  ".mh7 \x7b margin-left: 16rem; margin-right: 16rem; \x7d",
  "/*",
  "",
  "   NEGATIVE MARGINS",
  "",
  "*/",
  ".na1 \x7b margin: -.25rem; \x7d",
  ".na2 \x7b margin: -.5rem; \x7d",
  ".na3 \x7b margin: -1rem; \x7d",
  ".na4 \x7b margin: -2rem; \x7d",
  ".na5 \x7b margin: -4rem; \x7d",
  ".na6 \x7b margin: -8rem; \x7d",
  ".na7 \x7b margin: -16rem; \x7d",
  ".nl1 \x7b margin-left: -.25rem; \x7d",
  ".nl2 \x7b margin-left: -.5rem; \x7d",
  ".nl3 \x7b margin-left: -1rem; \x7d",
  ".nl4 \x7b margin-left: -2rem; \x7d",
  ".nl5 \x7b margin-left: -4rem; \x7d",
  ".nl6 \x7b margin-left: -8rem; \x7d",
  ".nl7 \x7b margin-left: -16rem; \x7d",
  ".nr1 \x7b margin-right: -.25rem; \x7d",
  ".nr2 \x7b margin-right: -.5rem; \x7d",
  ".nr3 \x7b margin-right: -1rem; \x7d",
  ".nr4 \x7b margin-right: -2rem; \x7d",
  ".nr5 \x7b margin-right: -4rem; \x7d",
  ".nr6 \x7b margin-right: -8rem; \x7d",
  ".nr7 \x7b margin-right: -16rem; \x7d",
  ".nb1 \x7b margin-bottom: -.25rem; \x7d",
  ".nb2 \x7b margin-bottom: -.5rem; \x7d",
  ".nb3 \x7b margin-bottom: -1rem; \x7d",
  ".nb4 \x7b margin-bottom: -2rem; \x7d",
  ".nb5 \x7b margin-bottom: -4rem; \x7d",
  ".nb6 \x7b margin-bottom: -8rem; \x7d",
  ".nb7 \x7b margin-bottom: -16rem; \x7d",
  ".nt1 \x7b margin-top: -.25rem; \x7d",
  ".nt2 \x7b margin-top: -.5rem; \x7d",
  ".nt3 \x7b margin-top: -1rem; \x7d",
  ".nt4 \x7b margin-top: -2rem; \x7d",
  ".nt5 \x7b margin-top: -4rem; \x7d",
  ".nt6 \x7b margin-top: -8rem; \x7d",
  ".nt7 \x7b margin-top: -16rem; \x7d",
  "/*",
  "",
  "   TABLES",
  "",
  "*/",
  ".collapse \x7b border-collapse: collapse; border-spacing: 0; \x7d",
  ".striped--light-silver:nth-child(odd) \x7b background-color: #aaa; \x7d",
  ".striped--moon-gray:nth-child(odd) \x7b background-color: #ccc; \x7d",
  ".striped--light-gray:nth-child(odd) \x7b background-color: #eee; \x7d",
  ".striped--near-white:nth-child(odd) \x7b background-color: #f4f4f4; \x7d",
  ".stripe-light:nth-child(odd) \x7b background-color: rgba( 255, 255, 255, .1 ); \x7d",
  ".stripe-dark:nth-child(odd) \x7b background-color: rgba( 0, 0, 0, .1 ); \x7d"]

/-- Prose: decoration, alignment, type scale, white space, effects, nested text and debugging. -/
def prose : List String := [
  "/*",
  "",
  "   TEXT DECORATION",
  "",
  "*/",
  ".strike \x7b text-decoration: line-through; \x7d",
  ".underline \x7b text-decoration: underline; \x7d",
  ".no-underline \x7b text-decoration: none; \x7d",
  "/*",
  "",
  "   TEXT ALIGN",
  "",
  "*/",
  ".tl \x7b text-align: left; \x7d",
  ".tr \x7b text-align: right; \x7d",
  ".tc \x7b text-align: center; \x7d",
  ".tj \x7b text-align: justify; \x7d",
  "/*",
  "",
  "   TEXT TRANSFORM",
  "",
  "*/",
  ".ttc \x7b text-transform: capitalize; \x7d",
  ".ttl \x7b text-transform: lowercase; \x7d",
  ".ttu \x7b text-transform: uppercase; \x7d",
  ".ttn \x7b text-transform: none; \x7d",
  "/*",
  "",
  "   TYPE SCALE",
  "",
  "*/",
  ".f-6, .f-headline \x7b font-size: 6rem; \x7d",
  ".f-5, .f-subheadline \x7b font-size: 5rem; \x7d",
  ".f1 \x7b font-size: 3rem; \x7d",
  ".f2 \x7b font-size: 2.25rem; \x7d",
  ".f3 \x7b font-size: 1.5rem; \x7d",
  ".f4 \x7b font-size: 1.25rem; \x7d",
  ".f5 \x7b font-size: 1rem; \x7d",
  ".f6 \x7b font-size: .875rem; \x7d",
  ".f7 \x7b font-size: .75rem; \x7d",
  "/*",
  "",
  "   TYPOGRAPHY",
  "",
  "*/",
  ".measure \x7b max-width: 30em; \x7d",
  ".measure-wide \x7b max-width: 34em; \x7d",
  ".measure-narrow \x7b max-width: 20em; \x7d",
  ".indent \x7b text-indent: 1em; margin-top: 0; margin-bottom: 0; \x7d",
  ".small-caps \x7b font-variant: small-caps; \x7d",
  ".truncate \x7b white-space: nowrap; overflow: hidden; text-overflow: ellipsis; \x7d",
  "/*",
  "",
  "   UTILITIES",
  "",
  "*/",
  ".overflow-container \x7b overflow-y: scroll; \x7d",
  ".center \x7b margin-right: auto; margin-left: auto; \x7d",
  ".mr-auto \x7b margin-right: auto; \x7d",
  ".ml-auto \x7b margin-left: auto; \x7d",
  "/*",
  "",
  "   VISIBILITY",
  "",
  "*/",
  ".clip \x7b position: fixed !important; _position: absolute !important; clip: rect( 1px 1px 1px 1px ); /* IE6, IE7 */ clip: rect( 1px, 1px, 1px, 1px ); \x7d",
  "/*",
  "",
  "   WHITE SPACE",
  "",
  "*/",
  ".ws-normal \x7b white-space: normal; \x7d",
  ".nowrap \x7b white-space: nowrap; \x7d",
  ".pre \x7b white-space: pre; \x7d",
  "/*",
  "",
  "   VERTICAL ALIGN",
  "",
  "*/",
  ".v-base \x7b vertical-align: baseline; \x7d",
  ".v-mid \x7b vertical-align: middle; \x7d",
  ".v-top \x7b vertical-align: top; \x7d",
  ".v-btm \x7b vertical-align: bottom; \x7d",
  "/*",
  "",
  "   HOVER EFFECTS",
  "",
  "*/",
  ".dim \x7b opacity: 1; transition: opacity .15s ease-in; \x7d",
  ".dim:hover, .dim:focus \x7b opacity: .5; transition: opacity .15s ease-in; \x7d",
  ".dim:active \x7b opacity: .8; transition: opacity .15s ease-out; \x7d",
  ".glow \x7b transition: opacity .15s ease-in; \x7d",
  ".glow:hover, .glow:focus \x7b opacity: 1; transition: opacity .15s ease-in; \x7d",
  ".hide-child .child \x7b opacity: 0; transition: opacity .15s ease-in; \x7d",
  ".hide-child:hover  .child, .hide-child:focus  .child, .hide-child:active .child \x7b opacity: 1; transition: opacity .15s ease-in; \x7d",
  ".underline-hover:hover, .underline-hover:focus \x7b text-decoration: underline; \x7d",
  ".grow \x7b -moz-osx-font-smoothing: grayscale; backface-visibility: hidden; transform: translateZ( 0 ); transition: transform .25s ease-out; \x7d",
  ".grow:hover, .grow:focus \x7b transform: scale( 1.05 ); \x7d",
  ".grow:active \x7b transform: scale( .90 ); \x7d",
  ".grow-large \x7b -moz-osx-font-smoothing: grayscale; backface-visibility: hidden; transform: translateZ( 0 ); transition: transform .25s ease-in-out; \x7d",
  ".grow-large:hover, .grow-large:focus \x7b transform: scale( 1.2 ); \x7d",
  ".grow-large:active \x7b transform: scale( .95 ); \x7d",
  ".pointer:hover \x7b cursor: pointer; \x7d",
  ".shadow-hover \x7b cursor: pointer; position: relative; transition: all .5s cubic-bezier( .165, .84, .44, 1 ); \x7d",
  ".shadow-hover::after \x7b content: ''; box-shadow: 0px 0px 16px 2px rgba( 0, 0, 0, .2 ); border-radius: inherit; opacity: 0; position: absolute; top: 0; left: 0; width: 100%; height: 100%; z-index: -1; transition: opacity .5s cubic-bezier( .165, .84, .44, 1 ); \x7d",
  ".shadow-hover:hover::after, .shadow-hover:focus::after \x7b opacity: 1; \x7d",
  ".bg-animate, .bg-animate:hover, .bg-animate:focus \x7b transition: background-color .15s ease-in-out; \x7d",
  "/*",
  "",
  "   Z-INDEX",
  "",
  "*/",
  ".z-0 \x7b z-index: 0; \x7d",
  ".z-1 \x7b z-index: 1; \x7d",
  ".z-2 \x7b z-index: 2; \x7d",
  ".z-3 \x7b z-index: 3; \x7d",
  ".z-4 \x7b z-index: 4; \x7d",
  ".z-5 \x7b z-index: 5; \x7d",
  ".z-999 \x7b z-index: 999; \x7d",
  ".z-9999 \x7b z-index: 9999; \x7d",
  ".z-max \x7b z-index: 2147483647; \x7d",
  ".z-inherit \x7b z-index: inherit; \x7d",
  ".z-initial \x7b z-index: initial; \x7d",
  ".z-unset \x7b z-index: unset; \x7d",
  "/*",
  "",
  "   NESTED",
  "",
  "*/",
  ".nested-copy-line-height p, .nested-copy-line-height ul, .nested-copy-line-height ol \x7b line-height: 1.5; \x7d",
  ".nested-headline-line-height h1, .nested-headline-line-height h2, .nested-headline-line-height h3, .nested-headline-line-height h4, .nested-headline-line-height h5, .nested-headline-line-height h6 \x7b line-height: 1.25; \x7d",
  ".nested-list-reset ul, .nested-list-reset ol \x7b padding-left: 0; margin-left: 0; list-style-type: none; \x7d",
  ".nested-copy-indent p+p \x7b text-indent: 1em; margin-top: 0; margin-bottom: 0; \x7d",
  ".nested-copy-separator p+p \x7b margin-top: 1.5em; \x7d",
  ".nested-img img \x7b width: 100%; max-width: 100%; display: block; \x7d",
  ".nested-links a \x7b color: #357edd; transition: color .15s ease-in; \x7d",
  ".nested-links a:hover, .nested-links a:focus \x7b color: #96ccff; transition: color .15s ease-in; \x7d",
  "/*",
  "",
  "   DEBUG CHILDREN",
  "",
  "*/",
  ".debug * \x7b outline: 1px solid gold; \x7d",
  ".debug-white * \x7b outline: 1px solid white; \x7d",
  ".debug-black * \x7b outline: 1px solid black; \x7d",
  "/*",
  "",
  "   DEBUG GRID",
  "",
  "*/",
  ".debug-grid \x7b background: transparent url(data:image/png;base64,iVBORw0KGgoAAAANSUhEUgAAAAEAAAABCAYAAAAfFcSJAAAADUlEQVR42mNkYPhfDwAChwGA60e6kgAAAABJRU5ErkJggg==) repeat top left; \x7d",
  ".debug-grid-16 \x7b background: transparent url(data:image/png;base64,iVBORw0KGgoAAAANSUhEUgAAAAEAAAABCAYAAAAfFcSJAAAADUlEQVR42mNkYPhfDwAChwGA60e6kgAAAABJRU5ErkJggg==) repeat top left; \x7d",
  ".debug-grid-8-solid \x7b background: white url(data:image/png;base64,iVBORw0KGgoAAAANSUhEUgAAAAEAAAABCAYAAAAfFcSJAAAADUlEQVR42mNkYPhfDwAChwGA60e6kgAAAABJRU5ErkJggg==) repeat top left; \x7d",
  ".debug-grid-16-solid \x7b background: white url(data:image/png;base64,iVBORw0KGgoAAAANSUhEUgAAAAEAAAABCAYAAAAfFcSJAAAADUlEQVR42mNkYPhfDwAChwGA60e6kgAAAABJRU5ErkJggg==) repeat top left; \x7d"]

end ClassAtlas.BuiltIn
