/-
The lines of the built-in stylesheet that hold on screens of some width only.
-/

namespace ClassAtlas.BuiltIn

/-- Rules for all but small screens. -/
def notSmall : List String := [
  "@media screen and (min-width: 30em) \x7b",
  "  .aspect-ratio-ns \x7b height: 0; position: relative; \x7d",
  "  .aspect-ratio--16x9-ns \x7b padding-bottom: 56.25%; \x7d",
  "  .aspect-ratio--9x16-ns \x7b padding-bottom: 177.77%; \x7d",
  "  .aspect-ratio--4x3-ns \x7b padding-bottom: 75%; \x7d",
  "  .aspect-ratio--3x4-ns \x7b padding-bottom: 133.33%; \x7d",
  "  .aspect-ratio--6x4-ns \x7b padding-bottom: 66.6%; \x7d",
  "  .aspect-ratio--4x6-ns \x7b padding-bottom: 150%; \x7d",
  "  .aspect-ratio--8x5-ns \x7b padding-bottom: 62.5%; \x7d",
  "  .aspect-ratio--5x8-ns \x7b padding-bottom: 160%; \x7d",
  "  .aspect-ratio--7x5-ns \x7b padding-bottom: 71.42%; \x7d",
  "  .aspect-ratio--5x7-ns \x7b padding-bottom: 140%; \x7d",
  "  .aspect-ratio--1x1-ns \x7b padding-bottom: 100%; \x7d",
  "  .aspect-ratio--object-ns \x7b position: absolute; top: 0; right: 0; bottom: 0; left: 0; width: 100%; height: 100%; z-index: 100; \x7d",
  "  .cover-ns \x7b background-size: cover !important; \x7d",
  "  .contain-ns \x7b background-size: contain !important; \x7d",
  "  .bg-center-ns \x7b background-repeat: no-repeat; background-position: center center; \x7d",
  "  .bg-top-ns \x7b background-repeat: no-repeat; background-position: top center; \x7d",
  "  .bg-right-ns \x7b background-repeat: no-repeat; background-position: center right; \x7d",
  "  .bg-bottom-ns \x7b background-repeat: no-repeat; background-position: bottom center; \x7d",
  "  .bg-left-ns \x7b background-repeat: no-repeat; background-position: center left; \x7d",
  "  .outline-ns \x7b outline: 1px solid; \x7d",
  "  .outline-transparent-ns \x7b outline: 1px solid transparent; \x7d",
  "  .outline-0-ns \x7b outline: 0; \x7d",
  "  .ba-ns \x7b border-style: solid; border-width: 1px; \x7d",
  "  .bt-ns \x7b border-top-style: solid; border-top-width: 1px; \x7d",
  "  .br-ns \x7b border-right-style: solid; border-right-width: 1px; \x7d",
  "  .bb-ns \x7b border-bottom-style: solid; border-bottom-width: 1px; \x7d",
  "  .bl-ns \x7b border-left-style: solid; border-left-width: 1px; \x7d",
  "  .bn-ns \x7b border-style: none; border-width: 0; \x7d",
  "  .br0-ns \x7b border-radius: 0; \x7d",
  "  .br1-ns \x7b border-radius: .125rem; \x7d",
  "  .br2-ns \x7b border-radius: .25rem; \x7d",
  "  .br3-ns \x7b border-radius: .5rem; \x7d",
  "  .br4-ns \x7b border-radius: 1rem; \x7d",
  "  .br-100-ns \x7b border-radius: 100%; \x7d",
  "  .br-pill-ns \x7b border-radius: 9999px; \x7d",
  "  .br--bottom-ns \x7b border-top-left-radius: 0; border-top-right-radius: 0; \x7d",
  "  .br--top-ns \x7b border-bottom-left-radius: 0; border-bottom-right-radius: 0; \x7d",
  "  .br--right-ns \x7b border-top-left-radius: 0; border-bottom-left-radius: 0; \x7d",
  "  .br--left-ns \x7b border-top-right-radius: 0; border-bottom-right-radius: 0; \x7d",
  "  .br-inherit-ns \x7b border-radius: inherit; \x7d",
  "  .br-initial-ns \x7b border-radius: initial; \x7d",
  "  .br-unset-ns \x7b border-radius: unset; \x7d",
  "  .b--dotted-ns \x7b border-style: dotted; \x7d",
  "  .b--dashed-ns \x7b border-style: dashed; \x7d",
  "  .b--solid-ns \x7b border-style: solid; \x7d",
  "  .b--none-ns \x7b border-style: none; \x7d",
  "  .bw0-ns \x7b border-width: 0; \x7d",
  "  .bw1-ns \x7b border-width: .125rem; \x7d",
  "  .bw2-ns \x7b border-width: .25rem; \x7d",
  "  .bw3-ns \x7b border-width: .5rem; \x7d",
  "  .bw4-ns \x7b border-width: 1rem; \x7d",
  "  .bw5-ns \x7b border-width: 2rem; \x7d",
  "  .bt-0-ns \x7b border-top-width: 0; \x7d",
  "  .br-0-ns \x7b border-right-width: 0; \x7d",
  "  .bb-0-ns \x7b border-bottom-width: 0; \x7d",
  "  .bl-0-ns \x7b border-left-width: 0; \x7d",
  "  .shadow-1-ns \x7b box-shadow: 0px 0px 4px 2px rgba( 0, 0, 0, 0.2 ); \x7d",
  "  .shadow-2-ns \x7b box-shadow: 0px 0px 8px 2px rgba( 0, 0, 0, 0.2 ); \x7d",
  "  .shadow-3-ns \x7b box-shadow: 2px 2px 4px 2px rgba( 0, 0, 0, 0.2 ); \x7d",
  "  .shadow-4-ns \x7b box-shadow: 2px 2px 8px 0px rgba( 0, 0, 0, 0.2 ); \x7d",
  "  .shadow-5-ns \x7b box-shadow: 4px 4px 8px 0px rgba( 0, 0, 0, 0.2 ); \x7d",
  "  .top-0-ns \x7b top: 0; \x7d",
  "  .right-0-ns \x7b right: 0; \x7d",
  "  .bottom-0-ns \x7b bottom: 0; \x7d",
  "  .left-0-ns \x7b left: 0; \x7d",
  "  .top-1-ns \x7b top: 1rem; \x7d",
  "  .right-1-ns \x7b right: 1rem; \x7d",
  "  .bottom-1-ns \x7b bottom: 1rem; \x7d",
  "  .left-1-ns \x7b left: 1rem; \x7d",
  "  .top-2-ns \x7b top: 2rem; \x7d",
  "  .right-2-ns \x7b right: 2rem; \x7d",
  "  .bottom-2-ns \x7b bottom: 2rem; \x7d",
  "  .left-2-ns \x7b left: 2rem; \x7d",
  "  .top--1-ns \x7b top: -1rem; \x7d",
  "  .right--1-ns \x7b right: -1rem; \x7d",
  "  .bottom--1-ns \x7b bottom: -1rem; \x7d",
  "  .left--1-ns \x7b left: -1rem; \x7d",
  "  .top--2-ns \x7b top: -2rem; \x7d",
  "  .right--2-ns \x7b right: -2rem; \x7d",
  "  .bottom--2-ns \x7b bottom: -2rem; \x7d",
  "  .left--2-ns \x7b left: -2rem; \x7d",
  "  .absolute--fill-ns \x7b top: 0; right: 0; bottom: 0; left: 0; \x7d",
  "  .cl-ns \x7b clear: left; \x7d",
  "  .cr-ns \x7b clear: right; \x7d",
  "  .cb-ns \x7b clear: both; \x7d",
  "  .cn-ns \x7b clear: none; \x7d",
  "  .dn-ns \x7b display: none; \x7d",
  "  .di-ns \x7b display: inline; \x7d",
  "  .db-ns \x7b display: block; \x7d",
  "  .dib-ns \x7b display: inline-block; \x7d",
  "  .dit-ns \x7b display: inline-table; \x7d",
  "  .dt-ns \x7b display: table; \x7d",
  "  .dtc-ns \x7b display: table-cell; \x7d",
  "  .dt-row-ns \x7b display: table-row; \x7d",
  "  .dt-row-group-ns \x7b display: table-row-group; \x7d",
  "  .dt-column-ns \x7b display: table-column; \x7d",
  "  .dt-column-group-ns \x7b display: table-column-group; \x7d",
  "  .dt--fixed-ns \x7b table-layout: fixed; width: 100%; \x7d",
  "  .flex-ns \x7b display: flex; \x7d",
  "  .inline-flex-ns \x7b display: inline-flex; \x7d",
  "  .flex-auto-ns \x7b flex: 1 1 auto; min-width: 0; /* 1 */ min-height: 0; /* 1 */ \x7d",
  "  .flex-none-ns \x7b flex: none; \x7d",
  "  .flex-column-ns \x7b flex-direction: column; \x7d",
  "  .flex-row-ns \x7b flex-direction: row; \x7d",
  "  .flex-wrap-ns \x7b flex-wrap: wrap; \x7d",
  "  .flex-nowrap-ns \x7b flex-wrap: nowrap; \x7d",
  "  .flex-wrap-reverse-ns \x7b flex-wrap: wrap-reverse; \x7d",
  "  .flex-column-reverse-ns \x7b flex-direction: column-reverse; \x7d",
  "  .flex-row-reverse-ns \x7b flex-direction: row-reverse; \x7d",
  "  .items-start-ns \x7b align-items: flex-start; \x7d",
  "  .items-end-ns \x7b align-items: flex-end; \x7d",
  "  .items-center-ns \x7b align-items: center; \x7d",
  "  .items-baseline-ns \x7b align-items: baseline; \x7d",
  "  .items-stretch-ns \x7b align-items: stretch; \x7d",
  "  .self-start-ns \x7b align-self: flex-start; \x7d",
  "  .self-end-ns \x7b align-self: flex-end; \x7d",
  "  .self-center-ns \x7b align-self: center; \x7d",
  "  .self-baseline-ns \x7b align-self: baseline; \x7d",
  "  .self-stretch-ns \x7b align-self: stretch; \x7d",
  "  .justify-start-ns \x7b justify-content: flex-start; \x7d",
  "  .justify-end-ns \x7b justify-content: flex-end; \x7d",
  "  .justify-center-ns \x7b justify-content: center; \x7d",
  "  .justify-between-ns \x7b justify-content: space-between; \x7d",
  "  .justify-around-ns \x7b justify-content: space-around; \x7d",
  "  .content-start-ns \x7b align-content: flex-start; \x7d",
  "  .content-end-ns \x7b align-content: flex-end; \x7d",
  "  .content-center-ns \x7b align-content: center; \x7d",
  "  .content-between-ns \x7b align-content: space-between; \x7d",
  "  .content-around-ns \x7b align-content: space-around; \x7d",
  "  .content-stretch-ns \x7b align-content: stretch; \x7d",
  "  .order-0-ns \x7b order: 0; \x7d",
  "  .order-1-ns \x7b order: 1; \x7d",
  "  .order-2-ns \x7b order: 2; \x7d",
  "  .order-3-ns \x7b order: 3; \x7d",
  "  .order-4-ns \x7b order: 4; \x7d",
  "  .order-5-ns \x7b order: 5; \x7d",
  "  .order-6-ns \x7b order: 6; \x7d",
  "  .order-7-ns \x7b order: 7; \x7d",
  "  .order-8-ns \x7b order: 8; \x7d",
  "  .order-last-ns \x7b order: 99999; \x7d",
  "  .flex-grow-0-ns \x7b flex-grow: 0; \x7d",
  "  .flex-grow-1-ns \x7b flex-grow: 1; \x7d",
  "  .flex-shrink-0-ns \x7b flex-shrink: 0; \x7d",
  "  .flex-shrink-1-ns \x7b flex-shrink: 1; \x7d",
  "  .fl-ns \x7b float: left; _display: inline; \x7d",
  "  .fr-ns \x7b float: right; _display: inline; \x7d",
  "  .fn-ns \x7b float: none; \x7d",
  "  .i-ns \x7b font-style: italic; \x7d",
  "  .fs-normal-ns \x7b font-style: normal; \x7d",
  "  .normal-ns \x7b font-weight: normal; \x7d",
  "  .b-ns \x7b font-weight: bold; \x7d",
  "  .fw1-ns \x7b font-weight: 100; \x7d",
  "  .fw2-ns \x7b font-weight: 200; \x7d",
  "  .fw3-ns \x7b font-weight: 300; \x7d",
  "  .fw4-ns \x7b font-weight: 400; \x7d",
  "  .fw5-ns \x7b font-weight: 500; \x7d",
  "  .fw6-ns \x7b font-weight: 600; \x7d",
  "  .fw7-ns \x7b font-weight: 700; \x7d",
  "  .fw8-ns \x7b font-weight: 800; \x7d",
  "  .fw9-ns \x7b font-weight: 900; \x7d",
  "  .h1-ns \x7b height: 1rem; \x7d",
  "  .h2-ns \x7b height: 2rem; \x7d",
  "  .h3-ns \x7b height: 4rem; \x7d",
  "  .h4-ns \x7b height: 8rem; \x7d",
  "  .h5-ns \x7b height: 16rem; \x7d",
  "  .h-25-ns \x7b height: 25%; \x7d",
  "  .h-50-ns \x7b height: 50%; \x7d",
  "  .h-75-ns \x7b height: 75%; \x7d",
  "  .h-100-ns \x7b height: 100%; \x7d",
  "  .min-h-100-ns \x7b min-height: 100%; \x7d",
  "  .vh-25-ns \x7b height: 25vh; \x7d",
  "  .vh-50-ns \x7b height: 50vh; \x7d",
  "  .vh-75-ns \x7b height: 75vh; \x7d",
  "  .vh-100-ns \x7b height: 100vh; \x7d",
  "  .min-vh-100-ns \x7b min-height: 100vh; \x7d",
  "  .h-auto-ns \x7b height: auto; \x7d",
  "  .h-inherit-ns \x7b height: inherit; \x7d",
  "  .tracked-ns \x7b letter-spacing: .1em; \x7d",
  "  .tracked-tight-ns \x7b letter-spacing: -.05em; \x7d",
  "  .tracked-mega-ns \x7b letter-spacing: .25em; \x7d",
  "  .lh-solid-ns \x7b line-height: 1; \x7d",
  "  .lh-title-ns \x7b line-height: 1.25; \x7d",
  "  .lh-copy-ns \x7b line-height: 1.5; \x7d",
  "  .mw-100-ns \x7b max-width: 100%; \x7d",
  "  .mw1-ns \x7b max-width: 1rem; \x7d",
  "  .mw2-ns \x7b max-width: 2rem; \x7d",
  "  .mw3-ns \x7b max-width: 4rem; \x7d",
  "  .mw4-ns \x7b max-width: 8rem; \x7d",
  "  .mw5-ns \x7b max-width: 16rem; \x7d",
  "  .mw6-ns \x7b max-width: 32rem; \x7d",
  "  .mw7-ns \x7b max-width: 48rem; \x7d",
  "  .mw8-ns \x7b max-width: 64rem; \x7d",
  "  .mw9-ns \x7b max-width: 96rem; \x7d",
  "  .mw-none-ns \x7b max-width: none; \x7d",
  "  .w1-ns \x7b width: 1rem; \x7d",
  "  .w2-ns \x7b width: 2rem; \x7d",
  "  .w3-ns \x7b width: 4rem; \x7d",
  "  .w4-ns \x7b width: 8rem; \x7d",
  "  .w5-ns \x7b width: 16rem; \x7d",
  "  .w-10-ns \x7b width: 10%; \x7d",
  "  .w-20-ns \x7b width: 20%; \x7d",
  "  .w-25-ns \x7b width: 25%; \x7d",
  "  .w-30-ns \x7b width: 30%; \x7d",
  "  .w-33-ns \x7b width: 33%; \x7d",
  "  .w-34-ns \x7b width: 34%; \x7d",
  "  .w-40-ns \x7b width: 40%; \x7d",
  "  .w-50-ns \x7b width: 50%; \x7d",
  "  .w-60-ns \x7b width: 60%; \x7d",
  "  .w-70-ns \x7b width: 70%; \x7d",
  "  .w-75-ns \x7b width: 75%; \x7d",
  "  .w-80-ns \x7b width: 80%; \x7d",
  "  .w-90-ns \x7b width: 90%; \x7d",
  "  .w-100-ns \x7b width: 100%; \x7d",
  "  .w-third-ns \x7b width: calc( 100% / 3 ); \x7d",
  "  .w-two-thirds-ns \x7b width: calc( 100% / 1.5 ); \x7d",
  "  .w-auto-ns \x7b width: auto; \x7d",
  "  .overflow-visible-ns \x7b overflow: visible; \x7d",
  "  .overflow-hidden-ns \x7b overflow: hidden; \x7d",
  "  .overflow-scroll-ns \x7b overflow: scroll; \x7d",
  "  .overflow-auto-ns \x7b overflow: auto; \x7d",
  "  .overflow-x-visible-ns \x7b overflow-x: visible; \x7d",
  "  .overflow-x-hidden-ns \x7b overflow-x: hidden; \x7d",
  "  .overflow-x-scroll-ns \x7b overflow-x: scroll; \x7d",
  "  .overflow-x-auto-ns \x7b overflow-x: auto; \x7d",
  "  .overflow-y-visible-ns \x7b overflow-y: visible; \x7d",
  "  .overflow-y-hidden-ns \x7b overflow-y: hidden; \x7d",
  "  .overflow-y-scroll-ns \x7b overflow-y: scroll; \x7d",
  "  .overflow-y-auto-ns \x7b overflow-y: auto; \x7d",
  "  .static-ns \x7b position: static; \x7d",
  "  .relative-ns \x7b position: relative; \x7d",
  "  .absolute-ns \x7b position: absolute; \x7d",
  "  .fixed-ns \x7b position: fixed; \x7d",
  "  .rotate-45-ns \x7b -webkit-transform: rotate( 45deg ); transform: rotate( 45deg ); \x7d",
  "  .rotate-90-ns \x7b -webkit-transform: rotate( 90deg ); transform: rotate( 90deg ); \x7d",
  "  .rotate-135-ns \x7b -webkit-transform: rotate( 135deg ); transform: rotate( 135deg ); \x7d",
  "  .rotate-180-ns \x7b -webkit-transform: rotate( 180deg ); transform: rotate( 180deg ); \x7d",
  "  .rotate-225-ns \x7b -webkit-transform: rotate( 225deg ); transform: rotate( 225deg ); \x7d",
  "  .rotate-270-ns \x7b -webkit-transform: rotate( 270deg ); transform: rotate( 270deg ); \x7d",
  "  .rotate-315-ns \x7b -webkit-transform: rotate( 315deg ); transform: rotate( 315deg ); \x7d",
  "  .pa0-ns \x7b padding: 0; \x7d",
  "  .pa1-ns \x7b padding: .25rem; \x7d",
  "  .pa2-ns \x7b padding: .5rem; \x7d",
  "  .pa3-ns \x7b padding: 1rem; \x7d",
  "  .pa4-ns \x7b padding: 2rem; \x7d",
  "  .pa5-ns \x7b padding: 4rem; \x7d",
  "  .pa6-ns \x7b padding: 8rem; \x7d",
  "  .pa7-ns \x7b padding: 16rem; \x7d",
  "  .pl0-ns \x7b padding-left: 0; \x7d",
  "  .pl1-ns \x7b padding-left: .25rem; \x7d",
  "  .pl2-ns \x7b padding-left: .5rem; \x7d",
  "  .pl3-ns \x7b padding-left: 1rem; \x7d",
  "  .pl4-ns \x7b padding-left: 2rem; \x7d",
  "  .pl5-ns \x7b padding-left: 4rem; \x7d",
  "  .pl6-ns \x7b padding-left: 8rem; \x7d",
  "  .pl7-ns \x7b padding-left: 16rem; \x7d",
  "  .pr0-ns \x7b padding-right: 0; \x7d",
  "  .pr1-ns \x7b padding-right: .25rem; \x7d",
  "  .pr2-ns \x7b padding-right: .5rem; \x7d",
  "  .pr3-ns \x7b padding-right: 1rem; \x7d",
  "  .pr4-ns \x7b padding-right: 2rem; \x7d",
  "  .pr5-ns \x7b padding-right: 4rem; \x7d",
  "  .pr6-ns \x7b padding-right: 8rem; \x7d",
  "  .pr7-ns \x7b padding-right: 16rem; \x7d",
  "  .pb0-ns \x7b padding-bottom: 0; \x7d",
  "  .pb1-ns \x7b padding-bottom: .25rem; \x7d",
  "  .pb2-ns \x7b padding-bottom: .5rem; \x7d",
  "  .pb3-ns \x7b padding-bottom: 1rem; \x7d",
  "  .pb4-ns \x7b padding-bottom: 2rem; \x7d",
  "  .pb5-ns \x7b padding-bottom: 4rem; \x7d",
  "  .pb6-ns \x7b padding-bottom: 8rem; \x7d",
  "  .pb7-ns \x7b padding-bottom: 16rem; \x7d",
  "  .pt0-ns \x7b padding-top: 0; \x7d",
  "  .pt1-ns \x7b padding-top: .25rem; \x7d",
  "  .pt2-ns \x7b padding-top: .5rem; \x7d",
  "  .pt3-ns \x7b padding-top: 1rem; \x7d",
  "  .pt4-ns \x7b padding-top: 2rem; \x7d",
  "  .pt5-ns \x7b padding-top: 4rem; \x7d",
  "  .pt6-ns \x7b padding-top: 8rem; \x7d",
  "  .pt7-ns \x7b padding-top: 16rem; \x7d",
  "  .pv0-ns \x7b padding-top: 0; padding-bottom: 0; \x7d",
  "  .pv1-ns \x7b padding-top: .25rem; padding-bottom: .25rem; \x7d",
  "  .pv2-ns \x7b padding-top: .5rem; padding-bottom: .5rem; \x7d",
  "  .pv3-ns \x7b padding-top: 1rem; padding-bottom: 1rem; \x7d",
  "  .pv4-ns \x7b padding-top: 2rem; padding-bottom: 2rem; \x7d",
  "  .pv5-ns \x7b padding-top: 4rem; padding-bottom: 4rem; \x7d",
  "  .pv6-ns \x7b padding-top: 8rem; padding-bottom: 8rem; \x7d",
  "  .pv7-ns \x7b padding-top: 16rem; padding-bottom: 16rem; \x7d",
  "  .ph0-ns \x7b padding-left: 0; padding-right: 0; \x7d",
  "  .ph1-ns \x7b padding-left: .25rem; padding-right: .25rem; \x7d",
  "  .ph2-ns \x7b padding-left: .5rem; padding-right: .5rem; \x7d",
  "  .ph3-ns \x7b padding-left: 1rem; padding-right: 1rem; \x7d",
  "  .ph4-ns \x7b padding-left: 2rem; padding-right: 2rem; \x7d",
  "  .ph5-ns \x7b padding-left: 4rem; padding-right: 4rem; \x7d",
  "  .ph6-ns \x7b padding-left: 8rem; padding-right: 8rem; \x7d",
  "  .ph7-ns \x7b padding-left: 16rem; padding-right: 16rem; \x7d",
  "  .ma0-ns \x7b margin: 0; \x7d",
  "  .ma1-ns \x7b margin: .25rem; \x7d",
  "  .ma2-ns \x7b margin: .5rem; \x7d",
  "  .ma3-ns \x7b margin: 1rem; \x7d",
  "  .ma4-ns \x7b margin: 2rem; \x7d",
  "  .ma5-ns \x7b margin: 4rem; \x7d",
  "  .ma6-ns \x7b margin: 8rem; \x7d",
  "  .ma7-ns \x7b margin: 16rem; \x7d",
  "  .ml0-ns \x7b margin-left: 0; \x7d",
  "  .ml1-ns \x7b margin-left: .25rem; \x7d",
  "  .ml2-ns \x7b margin-left: .5rem; \x7d",
  "  .ml3-ns \x7b margin-left: 1rem; \x7d",
  "  .ml4-ns \x7b margin-left: 2rem; \x7d",
  "  .ml5-ns \x7b margin-left: 4rem; \x7d",
  "  .ml6-ns \x7b margin-left: 8rem; \x7d",
  "  .ml7-ns \x7b margin-left: 16rem; \x7d",
  "  .mr0-ns \x7b margin-right: 0; \x7d",
  "  .mr1-ns \x7b margin-right: .25rem; \x7d",
  "  .mr2-ns \x7b margin-right: .5rem; \x7d",
  "  .mr3-ns \x7b margin-right: 1rem; \x7d",
  "  .mr4-ns \x7b margin-right: 2rem; \x7d",
  "  .mr5-ns \x7b margin-right: 4rem; \x7d",
  "  .mr6-ns \x7b margin-right: 8rem; \x7d",
  "  .mr7-ns \x7b margin-right: 16rem; \x7d",
  "  .mb0-ns \x7b margin-bottom: 0; \x7d",
  "  .mb1-ns \x7b margin-bottom: .25rem; \x7d",
  "  .mb2-ns \x7b margin-bottom: .5rem; \x7d",
  "  .mb3-ns \x7b margin-bottom: 1rem; \x7d",
  "  .mb4-ns \x7b margin-bottom: 2rem; \x7d",
  "  .mb5-ns \x7b margin-bottom: 4rem; \x7d",
  "  .mb6-ns \x7b margin-bottom: 8rem; \x7d",
  "  .mb7-ns \x7b margin-bottom: 16rem; \x7d",
  "  .mt0-ns \x7b margin-top: 0; \x7d",
  "  .mt1-ns \x7b margin-top: .25rem; \x7d",
  "  .mt2-ns \x7b margin-top: .5rem; \x7d",
  "  .mt3-ns \x7b margin-top: 1rem; \x7d",
  "  .mt4-ns \x7b margin-top: 2rem; \x7d",
  "  .mt5-ns \x7b margin-top: 4rem; \x7d",
  "  .mt6-ns \x7b margin-top: 8rem; \x7d",
  "  .mt7-ns \x7b margin-top: 16rem; \x7d",
  "  .mv0-ns \x7b margin-top: 0; margin-bottom: 0; \x7d",
  "  .mv1-ns \x7b margin-top: .25rem; margin-bottom: .25rem; \x7d",
  "  .mv2-ns \x7b margin-top: .5rem; margin-bottom: .5rem; \x7d",
  "  .mv3-ns \x7b margin-top: 1rem; margin-bottom: 1rem; \x7d",
  "  .mv4-ns \x7b margin-top: 2rem; margin-bottom: 2rem; \x7d",
  "  .mv5-ns \x7b margin-top: 4rem; margin-bottom: 4rem; \x7d",
  "  .mv6-ns \x7b margin-top: 8rem; margin-bottom: 8rem; \x7d",
  "  .mv7-ns \x7b margin-top: 16rem; margin-bottom: 16rem; \x7d",
  "  .mh0-ns \x7b margin-left: 0; margin-right: 0; \x7d",
  "  .mh1-ns \x7b margin-left: .25rem; margin-right: .25rem; \x7d",
  "  .mh2-ns \x7b margin-left: .5rem; margin-right: .5rem; \x7d",
  "  .mh3-ns \x7b margin-left: 1rem; margin-right: 1rem; \x7d",
  "  .mh4-ns \x7b margin-left: 2rem; margin-right: 2rem; \x7d",
  "  .mh5-ns \x7b margin-left: 4rem; margin-right: 4rem; \x7d",
  "  .mh6-ns \x7b margin-left: 8rem; margin-right: 8rem; \x7d",
  "  .mh7-ns \x7b margin-left: 16rem; margin-right: 16rem; \x7d",
  "  .na1-ns \x7b margin: -.25rem; \x7d",
  "  .na2-ns \x7b margin: -.5rem; \x7d",
  "  .na3-ns \x7b margin: -1rem; \x7d",
  "  .na4-ns \x7b margin: -2rem; \x7d",
  "  .na5-ns \x7b margin: -4rem; \x7d",
  "  .na6-ns \x7b margin: -8rem; \x7d",
  "  .na7-ns \x7b margin: -16rem; \x7d",
  "  .nl1-ns \x7b margin-left: -.25rem; \x7d",
  "  .nl2-ns \x7b margin-left: -.5rem; \x7d",
  "  .nl3-ns \x7b margin-left: -1rem; \x7d",
  "  .nl4-ns \x7b margin-left: -2rem; \x7d",
  "  .nl5-ns \x7b margin-left: -4rem; \x7d",
  "  .nl6-ns \x7b margin-left: -8rem; \x7d",
  "  .nl7-ns \x7b margin-left: -16rem; \x7d",
  "  .nr1-ns \x7b margin-right: -.25rem; \x7d",
  "  .nr2-ns \x7b margin-right: -.5rem; \x7d",
  "  .nr3-ns \x7b margin-right: -1rem; \x7d",
  "  .nr4-ns \x7b margin-right: -2rem; \x7d",
  "  .nr5-ns \x7b margin-right: -4rem; \x7d",
  "  .nr6-ns \x7b margin-right: -8rem; \x7d",
  "  .nr7-ns \x7b margin-right: -16rem; \x7d",
  "  .nb1-ns \x7b margin-bottom: -.25rem; \x7d",
  "  .nb2-ns \x7b margin-bottom: -.5rem; \x7d",
  "  .nb3-ns \x7b margin-bottom: -1rem; \x7d",
  "  .nb4-ns \x7b margin-bottom: -2rem; \x7d",
  "  .nb5-ns \x7b margin-bottom: -4rem; \x7d",
  "  .nb6-ns \x7b margin-bottom: -8rem; \x7d",
  "  .nb7-ns \x7b margin-bottom: -16rem; \x7d",
  "  .nt1-ns \x7b margin-top: -.25rem; \x7d",
  "  .nt2-ns \x7b margin-top: -.5rem; \x7d",
  "  .nt3-ns \x7b margin-top: -1rem; \x7d",
  "  .nt4-ns \x7b margin-top: -2rem; \x7d",
  "  .nt5-ns \x7b margin-top: -4rem; \x7d",
  "  .nt6-ns \x7b margin-top: -8rem; \x7d",
  "  .nt7-ns \x7b margin-top: -16rem; \x7d",
  "  .strike-ns \x7b text-decoration: line-through; \x7d",
  "  .underline-ns \x7b text-decoration: underline; \x7d",
  "  .no-underline-ns \x7b text-decoration: none; \x7d",
  "  .tl-ns \x7b text-align: left; \x7d",
  "  .tr-ns \x7b text-align: right; \x7d",
  "  .tc-ns \x7b text-align: center; \x7d",
  "  .tj-ns \x7b text-align: justify; \x7d",
  "  .ttc-ns \x7b text-transform: capitalize; \x7d",
  "  .ttl-ns \x7b text-transform: lowercase; \x7d",
  "  .ttu-ns \x7b text-transform: uppercase; \x7d",
  "  .ttn-ns \x7b text-transform: none; \x7d",
  "  .f-6-ns, .f-headline-ns \x7b font-size: 6rem; \x7d",
  "  .f-5-ns, .f-subheadline-ns \x7b font-size: 5rem; \x7d",
  "  .f1-ns \x7b font-size: 3rem; \x7d",
  "  .f2-ns \x7b font-size: 2.25rem; \x7d",
  "  .f3-ns \x7b font-size: 1.5rem; \x7d",
  "  .f4-ns \x7b font-size: 1.25rem; \x7d",
  "  .f5-ns \x7b font-size: 1rem; \x7d",
  "  .f6-ns \x7b font-size: .875rem; \x7d",
  "  .f7-ns \x7b font-size: .75rem; \x7d",
  "  .measure-ns \x7b max-width: 30em; \x7d",
  "  .measure-wide-ns \x7b max-width: 34em; \x7d",
  "  .measure-narrow-ns \x7b max-width: 20em; \x7d",
  "  .indent-ns \x7b text-indent: 1em; margin-top: 0; margin-bottom: 0; \x7d",
  "  .small-caps-ns \x7b font-variant: small-caps; \x7d",
  "  .truncate-ns \x7b white-space: nowrap; overflow: hidden; text-overflow: ellipsis; \x7d",
  "  .center-ns \x7b margin-right: auto; margin-left: auto; \x7d",
  "  .mr-auto-ns \x7b margin-right: auto; \x7d",
  "  .ml-auto-ns \x7b margin-left: auto; \x7d",
  "  .clip-ns \x7b position: fixed !important; _position: absolute !important; clip: rect( 1px 1px 1px 1px ); /* IE6, IE7 */ clip: rect( 1px, 1px, 1px, 1px ); \x7d",
  "  .ws-normal-ns \x7b white-space: normal; \x7d",
  "  .nowrap-ns \x7b white-space: nowrap; \x7d",
  "  .pre-ns \x7b white-space: pre; \x7d",
  "  .v-base-ns \x7b vertical-align: baseline; \x7d",
  "  .v-mid-ns \x7b vertical-align: middle; \x7d",
  "  .v-top-ns \x7b vertical-align: top; \x7d",
  "  .v-btm-ns \x7b vertical-align: bottom; \x7d",
  "\x7d"]

/-- Rules for medium screens. -/
def medium : List String := [
  "@media screen and (min-width: 30em) and (max-width: 60em) \x7b",
  "  .aspect-ratio-m \x7b height: 0; position: relative; \x7d",
  "  .aspect-ratio--16x9-m \x7b padding-bottom: 56.25%; \x7d",
  "  .aspect-ratio--9x16-m \x7b padding-bottom: 177.77%; \x7d",
  "  .aspect-ratio--4x3-m \x7b padding-bottom: 75%; \x7d",
  "  .aspect-ratio--3x4-m \x7b padding-bottom: 133.33%; \x7d",
  "  .aspect-ratio--6x4-m \x7b padding-bottom: 66.6%; \x7d",
  "  .aspect-ratio--4x6-m \x7b padding-bottom: 150%; \x7d",
  "  .aspect-ratio--8x5-m \x7b padding-bottom: 62.5%; \x7d",
  "  .aspect-ratio--5x8-m \x7b padding-bottom: 160%; \x7d",
  "  .aspect-ratio--7x5-m \x7b padding-bottom: 71.42%; \x7d",
  "  .aspect-ratio--5x7-m \x7b padding-bottom: 140%; \x7d",
  "  .aspect-ratio--1x1-m \x7b padding-bottom: 100%; \x7d",
  "  .aspect-ratio--object-m \x7b position: absolute; top: 0; right: 0; bottom: 0; left: 0; width: 100%; height: 100%; z-index: 100; \x7d",
  "  .cover-m \x7b background-size: cover !important; \x7d",
  "  .contain-m \x7b background-size: contain !important; \x7d",
  "  .bg-center-m \x7b background-repeat: no-repeat; background-position: center center; \x7d",
  "  .bg-top-m \x7b background-repeat: no-repeat; background-position: top center; \x7d",
  "  .bg-right-m \x7b background-repeat: no-repeat; background-position: center right; \x7d",
  "  .bg-bottom-m \x7b background-repeat: no-repeat; background-position: bottom center; \x7d",
  "  .bg-left-m \x7b background-repeat: no-repeat; background-position: center left; \x7d",
  "  .outline-m \x7b outline: 1px solid; \x7d",
  "  .outline-transparent-m \x7b outline: 1px solid transparent; \x7d",
  "  .outline-0-m \x7b outline: 0; \x7d",
  "  .ba-m \x7b border-style: solid; border-width: 1px; \x7d",
  "  .bt-m \x7b border-top-style: solid; border-top-width: 1px; \x7d",
  "  .br-m \x7b border-right-style: solid; border-right-width: 1px; \x7d",
  "  .bb-m \x7b border-bottom-style: solid; border-bottom-width: 1px; \x7d",
  "  .bl-m \x7b border-left-style: solid; border-left-width: 1px; \x7d",
  "  .bn-m \x7b border-style: none; border-width: 0; \x7d",
  "  .br0-m \x7b border-radius: 0; \x7d",
  "  .br1-m \x7b border-radius: .125rem; \x7d",
  "  .br2-m \x7b border-radius: .25rem; \x7d",
  "  .br3-m \x7b border-radius: .5rem; \x7d",
  "  .br4-m \x7b border-radius: 1rem; \x7d",
  "  .br-100-m \x7b border-radius: 100%; \x7d",
  "  .br-pill-m \x7b border-radius: 9999px; \x7d",
  "  .br--bottom-m \x7b border-top-left-radius: 0; border-top-right-radius: 0; \x7d",
  "  .br--top-m \x7b border-bottom-left-radius: 0; border-bottom-right-radius: 0; \x7d",
  "  .br--right-m \x7b border-top-left-radius: 0; border-bottom-left-radius: 0; \x7d",
  "  .br--left-m \x7b border-top-right-radius: 0; border-bottom-right-radius: 0; \x7d",
  "  .br-inherit-m \x7b border-radius: inherit; \x7d",
  "  .br-initial-m \x7b border-radius: initial; \x7d",
  "  .br-unset-m \x7b border-radius: unset; \x7d",
  "  .b--dotted-m \x7b border-style: dotted; \x7d",
  "  .b--dashed-m \x7b border-style: dashed; \x7d",
  "  .b--solid-m \x7b border-style: solid; \x7d",
  "  .b--none-m \x7b border-style: none; \x7d",
  "  .bw0-m \x7b border-width: 0; \x7d",
  "  .bw1-m \x7b border-width: .125rem; \x7d",
  "  .bw2-m \x7b border-width: .25rem; \x7d",
  "  .bw3-m \x7b border-width: .5rem; \x7d",
  "  .bw4-m \x7b border-width: 1rem; \x7d",
  "  .bw5-m \x7b border-width: 2rem; \x7d",
  "  .bt-0-m \x7b border-top-width: 0; \x7d",
  "  .br-0-m \x7b border-right-width: 0; \x7d",
  "  .bb-0-m \x7b border-bottom-width: 0; \x7d",
  "  .bl-0-m \x7b border-left-width: 0; \x7d",
  "  .shadow-1-m \x7b box-shadow: 0px 0px 4px 2px rgba( 0, 0, 0, 0.2 ); \x7d",
  "  .shadow-2-m \x7b box-shadow: 0px 0px 8px 2px rgba( 0, 0, 0, 0.2 ); \x7d",
  "  .shadow-3-m \x7b box-shadow: 2px 2px 4px 2px rgba( 0, 0, 0, 0.2 ); \x7d",
  "  .shadow-4-m \x7b box-shadow: 2px 2px 8px 0px rgba( 0, 0, 0, 0.2 ); \x7d",
  "  .shadow-5-m \x7b box-shadow: 4px 4px 8px 0px rgba( 0, 0, 0, 0.2 ); \x7d",
  "  .top-0-m \x7b top: 0; \x7d",
  "  .right-0-m \x7b right: 0; \x7d",
  "  .bottom-0-m \x7b bottom: 0; \x7d",
  "  .left-0-m \x7b left: 0; \x7d",
  "  .top-1-m \x7b top: 1rem; \x7d",
  "  .right-1-m \x7b right: 1rem; \x7d",
  "  .bottom-1-m \x7b bottom: 1rem; \x7d",
  "  .left-1-m \x7b left: 1rem; \x7d",
  "  .top-2-m \x7b top: 2rem; \x7d",
  "  .right-2-m \x7b right: 2rem; \x7d",
  "  .bottom-2-m \x7b bottom: 2rem; \x7d",
  "  .left-2-m \x7b left: 2rem; \x7d",
  "  .top--1-m \x7b top: -1rem; \x7d",
  "  .right--1-m \x7b right: -1rem; \x7d",
  "  .bottom--1-m \x7b bottom: -1rem; \x7d",
  "  .left--1-m \x7b left: -1rem; \x7d",
  "  .top--2-m \x7b top: -2rem; \x7d",
  "  .right--2-m \x7b right: -2rem; \x7d",
  "  .bottom--2-m \x7b bottom: -2rem; \x7d",
  "  .left--2-m \x7b left: -2rem; \x7d",
  "  .absolute--fill-m \x7b top: 0; right: 0; bottom: 0; left: 0; \x7d",
  "  .cl-m \x7b clear: left; \x7d",
  "  .cr-m \x7b clear: right; \x7d",
  "  .cb-m \x7b clear: both; \x7d",
  "  .cn-m \x7b clear: none; \x7d",
  "  .dn-m \x7b display: none; \x7d",
  "  .di-m \x7b display: inline; \x7d",
  "  .db-m \x7b display: block; \x7d",
  "  .dib-m \x7b display: inline-block; \x7d",
  "  .dit-m \x7b display: inline-table; \x7d",
  "  .dt-m \x7b display: table; \x7d",
  "  .dtc-m \x7b display: table-cell; \x7d",
  "  .dt-row-m \x7b display: table-row; \x7d",
  "  .dt-row-group-m \x7b display: table-row-group; \x7d",
  "  .dt-column-m \x7b display: table-column; \x7d",
  "  .dt-column-group-m \x7b display: table-column-group; \x7d",
  "  .dt--fixed-m \x7b table-layout: fixed; width: 100%; \x7d",
  "  .flex-m \x7b display: flex; \x7d",
  "  .inline-flex-m \x7b display: inline-flex; \x7d",
  "  .flex-auto-m \x7b flex: 1 1 auto; min-width: 0; /* 1 */ min-height: 0; /* 1 */ \x7d",
  "  .flex-none-m \x7b flex: none; \x7d",
  "  .flex-column-m \x7b flex-direction: column; \x7d",
  "  .flex-row-m \x7b flex-direction: row; \x7d",
  "  .flex-wrap-m \x7b flex-wrap: wrap; \x7d",
  "  .flex-nowrap-m \x7b flex-wrap: nowrap; \x7d",
  "  .flex-wrap-reverse-m \x7b flex-wrap: wrap-reverse; \x7d",
  "  .flex-column-reverse-m \x7b flex-direction: column-reverse; \x7d",
  "  .flex-row-reverse-m \x7b flex-direction: row-reverse; \x7d",
  "  .items-start-m \x7b align-items: flex-start; \x7d",
  "  .items-end-m \x7b align-items: flex-end; \x7d",
  "  .items-center-m \x7b align-items: center; \x7d",
  "  .items-baseline-m \x7b align-items: baseline; \x7d",
  "  .items-stretch-m \x7b align-items: stretch; \x7d",
  "  .self-start-m \x7b align-self: flex-start; \x7d",
  "  .self-end-m \x7b align-self: flex-end; \x7d",
  "  .self-center-m \x7b align-self: center; \x7d",
  "  .self-baseline-m \x7b align-self: baseline; \x7d",
  "  .self-stretch-m \x7b align-self: stretch; \x7d",
  "  .justify-start-m \x7b justify-content: flex-start; \x7d",
  "  .justify-end-m \x7b justify-content: flex-end; \x7d",
  "  .justify-center-m \x7b justify-content: center; \x7d",
  "  .justify-between-m \x7b justify-content: space-between; \x7d",
  "  .justify-around-m \x7b justify-content: space-around; \x7d",
  "  .content-start-m \x7b align-content: flex-start; \x7d",
  "  .content-end-m \x7b align-content: flex-end; \x7d",
  "  .content-center-m \x7b align-content: center; \x7d",
  "  .content-between-m \x7b align-content: space-between; \x7d",
  "  .content-around-m \x7b align-content: space-around; \x7d",
  "  .content-stretch-m \x7b align-content: stretch; \x7d",
  "  .order-0-m \x7b order: 0; \x7d",
  "  .order-1-m \x7b order: 1; \x7d",
  "  .order-2-m \x7b order: 2; \x7d",
  "  .order-3-m \x7b order: 3; \x7d",
  "  .order-4-m \x7b order: 4; \x7d",
  "  .order-5-m \x7b order: 5; \x7d",
  "  .order-6-m \x7b order: 6; \x7d",
  "  .order-7-m \x7b order: 7; \x7d",
  "  .order-8-m \x7b order: 8; \x7d",
  "  .order-last-m \x7b order: 99999; \x7d",
  "  .flex-grow-0-m \x7b flex-grow: 0; \x7d",
  "  .flex-grow-1-m \x7b flex-grow: 1; \x7d",
  "  .flex-shrink-0-m \x7b flex-shrink: 0; \x7d",
  "  .flex-shrink-1-m \x7b flex-shrink: 1; \x7d",
  "  .fl-m \x7b float: left; _display: inline; \x7d",
  "  .fr-m \x7b float: right; _display: inline; \x7d",
  "  .fn-m \x7b float: none; \x7d",
  "  .i-m \x7b font-style: italic; \x7d",
  "  .fs-normal-m \x7b font-style: normal; \x7d",
  "  .normal-m \x7b font-weight: normal; \x7d",
  "  .b-m \x7b font-weight: bold; \x7d",
  "  .fw1-m \x7b font-weight: 100; \x7d",
  "  .fw2-m \x7b font-weight: 200; \x7d",
  "  .fw3-m \x7b font-weight: 300; \x7d",
  "  .fw4-m \x7b font-weight: 400; \x7d",
  "  .fw5-m \x7b font-weight: 500; \x7d",
  "  .fw6-m \x7b font-weight: 600; \x7d",
  "  .fw7-m \x7b font-weight: 700; \x7d",
  "  .fw8-m \x7b font-weight: 800; \x7d",
  "  .fw9-m \x7b font-weight: 900; \x7d",
  "  .h1-m \x7b height: 1rem; \x7d",
  "  .h2-m \x7b height: 2rem; \x7d",
  "  .h3-m \x7b height: 4rem; \x7d",
  "  .h4-m \x7b height: 8rem; \x7d",
  "  .h5-m \x7b height: 16rem; \x7d",
  "  .h-25-m \x7b height: 25%; \x7d",
  "  .h-50-m \x7b height: 50%; \x7d",
  "  .h-75-m \x7b height: 75%; \x7d",
  "  .h-100-m \x7b height: 100%; \x7d",
  "  .min-h-100-m \x7b min-height: 100%; \x7d",
  "  .vh-25-m \x7b height: 25vh; \x7d",
  "  .vh-50-m \x7b height: 50vh; \x7d",
  "  .vh-75-m \x7b height: 75vh; \x7d",
  "  .vh-100-m \x7b height: 100vh; \x7d",
  "  .min-vh-100-m \x7b min-height: 100vh; \x7d",
  "  .h-auto-m \x7b height: auto; \x7d",
  "  .h-inherit-m \x7b height: inherit; \x7d",
  "  .tracked-m \x7b letter-spacing: .1em; \x7d",
  "  .tracked-tight-m \x7b letter-spacing: -.05em; \x7d",
  "  .tracked-mega-m \x7b letter-spacing: .25em; \x7d",
  "  .lh-solid-m \x7b line-height: 1; \x7d",
  "  .lh-title-m \x7b line-height: 1.25; \x7d",
  "  .lh-copy-m \x7b line-height: 1.5; \x7d",
  "  .mw-100-m \x7b max-width: 100%; \x7d",
  "  .mw1-m \x7b max-width: 1rem; \x7d",
  "  .mw2-m \x7b max-width: 2rem; \x7d",
  "  .mw3-m \x7b max-width: 4rem; \x7d",
  "  .mw4-m \x7b max-width: 8rem; \x7d",
  "  .mw5-m \x7b max-width: 16rem; \x7d",
  "  .mw6-m \x7b max-width: 32rem; \x7d",
  "  .mw7-m \x7b max-width: 48rem; \x7d",
  "  .mw8-m \x7b max-width: 64rem; \x7d",
  "  .mw9-m \x7b max-width: 96rem; \x7d",
  "  .mw-none-m \x7b max-width: none; \x7d",
  "  .w1-m \x7b width: 1rem; \x7d",
  "  .w2-m \x7b width: 2rem; \x7d",
  "  .w3-m \x7b width: 4rem; \x7d",
  "  .w4-m \x7b width: 8rem; \x7d",
  "  .w5-m \x7b width: 16rem; \x7d",
  "  .w-10-m \x7b width: 10%; \x7d",
  "  .w-20-m \x7b width: 20%; \x7d",
  "  .w-25-m \x7b width: 25%; \x7d",
  "  .w-30-m \x7b width: 30%; \x7d",
  "  .w-33-m \x7b width: 33%; \x7d",
  "  .w-34-m \x7b width: 34%; \x7d",
  "  .w-40-m \x7b width: 40%; \x7d",
  "  .w-50-m \x7b width: 50%; \x7d",
  "  .w-60-m \x7b width: 60%; \x7d",
  "  .w-70-m \x7b width: 70%; \x7d",
  "  .w-75-m \x7b width: 75%; \x7d",
  "  .w-80-m \x7b width: 80%; \x7d",
  "  .w-90-m \x7b width: 90%; \x7d",
  "  .w-100-m \x7b width: 100%; \x7d",
  "  .w-third-m \x7b width: calc( 100% / 3 ); \x7d",
  "  .w-two-thirds-m \x7b width: calc( 100% / 1.5 ); \x7d",
  "  .w-auto-m \x7b width: auto; \x7d",
  "  .overflow-visible-m \x7b overflow: visible; \x7d",
  "  .overflow-hidden-m \x7b overflow: hidden; \x7d",
  "  .overflow-scroll-m \x7b overflow: scroll; \x7d",
  "  .overflow-auto-m \x7b overflow: auto; \x7d",
  "  .overflow-x-visible-m \x7b overflow-x: visible; \x7d",
  "  .overflow-x-hidden-m \x7b overflow-x: hidden; \x7d",
  "  .overflow-x-scroll-m \x7b overflow-x: scroll; \x7d",
  "  .overflow-x-auto-m \x7b overflow-x: auto; \x7d",
  "  .overflow-y-visible-m \x7b overflow-y: visible; \x7d",
  "  .overflow-y-hidden-m \x7b overflow-y: hidden; \x7d",
  "  .overflow-y-scroll-m \x7b overflow-y: scroll; \x7d",
  "  .overflow-y-auto-m \x7b overflow-y: auto; \x7d",
  "  .static-m \x7b position: static; \x7d",
  "  .relative-m \x7b position: relative; \x7d",
  "  .absolute-m \x7b position: absolute; \x7d",
  "  .fixed-m \x7b position: fixed; \x7d",
  "  .rotate-45-m \x7b -webkit-transform: rotate( 45deg ); transform: rotate( 45deg ); \x7d",
  "  .rotate-90-m \x7b -webkit-transform: rotate( 90deg ); transform: rotate( 90deg ); \x7d",
  "  .rotate-135-m \x7b -webkit-transform: rotate( 135deg ); transform: rotate( 135deg ); \x7d",
  "  .rotate-180-m \x7b -webkit-transform: rotate( 180deg ); transform: rotate( 180deg ); \x7d",
  "  .rotate-225-m \x7b -webkit-transform: rotate( 225deg ); transform: rotate( 225deg ); \x7d",
  "  .rotate-270-m \x7b -webkit-transform: rotate( 270deg ); transform: rotate( 270deg ); \x7d",
  "  .rotate-315-m \x7b -webkit-transform: rotate( 315deg ); transform: rotate( 315deg ); \x7d",
  "  .pa0-m \x7b padding: 0; \x7d",
  "  .pa1-m \x7b padding: .25rem; \x7d",
  "  .pa2-m \x7b padding: .5rem; \x7d",
  "  .pa3-m \x7b padding: 1rem; \x7d",
  "  .pa4-m \x7b padding: 2rem; \x7d",
  "  .pa5-m \x7b padding: 4rem; \x7d",
  "  .pa6-m \x7b padding: 8rem; \x7d",
  "  .pa7-m \x7b padding: 16rem; \x7d",
  "  .pl0-m \x7b padding-left: 0; \x7d",
  "  .pl1-m \x7b padding-left: .25rem; \x7d",
  "  .pl2-m \x7b padding-left: .5rem; \x7d",
  "  .pl3-m \x7b padding-left: 1rem; \x7d",
  "  .pl4-m \x7b padding-left: 2rem; \x7d",
  "  .pl5-m \x7b padding-left: 4rem; \x7d",
  "  .pl6-m \x7b padding-left: 8rem; \x7d",
  "  .pl7-m \x7b padding-left: 16rem; \x7d",
  "  .pr0-m \x7b padding-right: 0; \x7d",
  "  .pr1-m \x7b padding-right: .25rem; \x7d",
  "  .pr2-m \x7b padding-right: .5rem; \x7d",
  "  .pr3-m \x7b padding-right: 1rem; \x7d",
  "  .pr4-m \x7b padding-right: 2rem; \x7d",
  "  .pr5-m \x7b padding-right: 4rem; \x7d",
  "  .pr6-m \x7b padding-right: 8rem; \x7d",
  "  .pr7-m \x7b padding-right: 16rem; \x7d",
  "  .pb0-m \x7b padding-bottom: 0; \x7d",
  "  .pb1-m \x7b padding-bottom: .25rem; \x7d",
  "  .pb2-m \x7b padding-bottom: .5rem; \x7d",
  "  .pb3-m \x7b padding-bottom: 1rem; \x7d",
  "  .pb4-m \x7b padding-bottom: 2rem; \x7d",
  "  .pb5-m \x7b padding-bottom: 4rem; \x7d",
  "  .pb6-m \x7b padding-bottom: 8rem; \x7d",
  "  .pb7-m \x7b padding-bottom: 16rem; \x7d",
  "  .pt0-m \x7b padding-top: 0; \x7d",
  "  .pt1-m \x7b padding-top: .25rem; \x7d",
  "  .pt2-m \x7b padding-top: .5rem; \x7d",
  "  .pt3-m \x7b padding-top: 1rem; \x7d",
  "  .pt4-m \x7b padding-top: 2rem; \x7d",
  "  .pt5-m \x7b padding-top: 4rem; \x7d",
  "  .pt6-m \x7b padding-top: 8rem; \x7d",
  "  .pt7-m \x7b padding-top: 16rem; \x7d",
  "  .pv0-m \x7b padding-top: 0; padding-bottom: 0; \x7d",
  "  .pv1-m \x7b padding-top: .25rem; padding-bottom: .25rem; \x7d",
  "  .pv2-m \x7b padding-top: .5rem; padding-bottom: .5rem; \x7d",
  "  .pv3-m \x7b padding-top: 1rem; padding-bottom: 1rem; \x7d",
  "  .pv4-m \x7b padding-top: 2rem; padding-bottom: 2rem; \x7d",
  "  .pv5-m \x7b padding-top: 4rem; padding-bottom: 4rem; \x7d",
  "  .pv6-m \x7b padding-top: 8rem; padding-bottom: 8rem; \x7d",
  "  .pv7-m \x7b padding-top: 16rem; padding-bottom: 16rem; \x7d",
  "  .ph0-m \x7b padding-left: 0; padding-right: 0; \x7d",
  "  .ph1-m \x7b padding-left: .25rem; padding-right: .25rem; \x7d",
  "  .ph2-m \x7b padding-left: .5rem; padding-right: .5rem; \x7d",
  "  .ph3-m \x7b padding-left: 1rem; padding-right: 1rem; \x7d",
  "  .ph4-m \x7b padding-left: 2rem; padding-right: 2rem; \x7d",
  "  .ph5-m \x7b padding-left: 4rem; padding-right: 4rem; \x7d",
  "  .ph6-m \x7b padding-left: 8rem; padding-right: 8rem; \x7d",
  "  .ph7-m \x7b padding-left: 16rem; padding-right: 16rem; \x7d",
  "  .ma0-m \x7b margin: 0; \x7d",
  "  .ma1-m \x7b margin: .25rem; \x7d",
  "  .ma2-m \x7b margin: .5rem; \x7d",
  "  .ma3-m \x7b margin: 1rem; \x7d",
  "  .ma4-m \x7b margin: 2rem; \x7d",
  "  .ma5-m \x7b margin: 4rem; \x7d",
  "  .ma6-m \x7b margin: 8rem; \x7d",
  "  .ma7-m \x7b margin: 16rem; \x7d",
  "  .ml0-m \x7b margin-left: 0; \x7d",
  "  .ml1-m \x7b margin-left: .25rem; \x7d",
  "  .ml2-m \x7b margin-left: .5rem; \x7d",
  "  .ml3-m \x7b margin-left: 1rem; \x7d",
  "  .ml4-m \x7b margin-left: 2rem; \x7d",
  "  .ml5-m \x7b margin-left: 4rem; \x7d",
  "  .ml6-m \x7b margin-left: 8rem; \x7d",
  "  .ml7-m \x7b margin-left: 16rem; \x7d",
  "  .mr0-m \x7b margin-right: 0; \x7d",
  "  .mr1-m \x7b margin-right: .25rem; \x7d",
  "  .mr2-m \x7b margin-right: .5rem; \x7d",
  "  .mr3-m \x7b margin-right: 1rem; \x7d",
  "  .mr4-m \x7b margin-right: 2rem; \x7d",
  "  .mr5-m \x7b margin-right: 4rem; \x7d",
  "  .mr6-m \x7b margin-right: 8rem; \x7d",
  "  .mr7-m \x7b margin-right: 16rem; \x7d",
  "  .mb0-m \x7b margin-bottom: 0; \x7d",
  "  .mb1-m \x7b margin-bottom: .25rem; \x7d",
  "  .mb2-m \x7b margin-bottom: .5rem; \x7d",
  "  .mb3-m \x7b margin-bottom: 1rem; \x7d",
  "  .mb4-m \x7b margin-bottom: 2rem; \x7d",
  "  .mb5-m \x7b margin-bottom: 4rem; \x7d",
  "  .mb6-m \x7b margin-bottom: 8rem; \x7d",
  "  .mb7-m \x7b margin-bottom: 16rem; \x7d",
  "  .mt0-m \x7b margin-top: 0; \x7d",
  "  .mt1-m \x7b margin-top: .25rem; \x7d",
  "  .mt2-m \x7b margin-top: .5rem; \x7d",
  "  .mt3-m \x7b margin-top: 1rem; \x7d",
  "  .mt4-m \x7b margin-top: 2rem; \x7d",
  "  .mt5-m \x7b margin-top: 4rem; \x7d",
  "  .mt6-m \x7b margin-top: 8rem; \x7d",
  "  .mt7-m \x7b margin-top: 16rem; \x7d",
  "  .mv0-m \x7b margin-top: 0; margin-bottom: 0; \x7d",
  "  .mv1-m \x7b margin-top: .25rem; margin-bottom: .25rem; \x7d",
  "  .mv2-m \x7b margin-top: .5rem; margin-bottom: .5rem; \x7d",
  "  .mv3-m \x7b margin-top: 1rem; margin-bottom: 1rem; \x7d",
  "  .mv4-m \x7b margin-top: 2rem; margin-bottom: 2rem; \x7d",
  "  .mv5-m \x7b margin-top: 4rem; margin-bottom: 4rem; \x7d",
  "  .mv6-m \x7b margin-top: 8rem; margin-bottom: 8rem; \x7d",
  "  .mv7-m \x7b margin-top: 16rem; margin-bottom: 16rem; \x7d",
  "  .mh0-m \x7b margin-left: 0; margin-right: 0; \x7d",
  "  .mh1-m \x7b margin-left: .25rem; margin-right: .25rem; \x7d",
  "  .mh2-m \x7b margin-left: .5rem; margin-right: .5rem; \x7d",
  "  .mh3-m \x7b margin-left: 1rem; margin-right: 1rem; \x7d",
  "  .mh4-m \x7b margin-left: 2rem; margin-right: 2rem; \x7d",
  "  .mh5-m \x7b margin-left: 4rem; margin-right: 4rem; \x7d",
  "  .mh6-m \x7b margin-left: 8rem; margin-right: 8rem; \x7d",
  "  .mh7-m \x7b margin-left: 16rem; margin-right: 16rem; \x7d",
  "  .na1-m \x7b margin: -.25rem; \x7d",
  "  .na2-m \x7b margin: -.5rem; \x7d",
  "  .na3-m \x7b margin: -1rem; \x7d",
  "  .na4-m \x7b margin: -2rem; \x7d",
  "  .na5-m \x7b margin: -4rem; \x7d",
  "  .na6-m \x7b margin: -8rem; \x7d",
  "  .na7-m \x7b margin: -16rem; \x7d",
  "  .nl1-m \x7b margin-left: -.25rem; \x7d",
  "  .nl2-m \x7b margin-left: -.5rem; \x7d",
  "  .nl3-m \x7b margin-left: -1rem; \x7d",
  "  .nl4-m \x7b margin-left: -2rem; \x7d",
  "  .nl5-m \x7b margin-left: -4rem; \x7d",
  "  .nl6-m \x7b margin-left: -8rem; \x7d",
  "  .nl7-m \x7b margin-left: -16rem; \x7d",
  "  .nr1-m \x7b margin-right: -.25rem; \x7d",
  "  .nr2-m \x7b margin-right: -.5rem; \x7d",
  "  .nr3-m \x7b margin-right: -1rem; \x7d",
  "  .nr4-m \x7b margin-right: -2rem; \x7d",
  "  .nr5-m \x7b margin-right: -4rem; \x7d",
  "  .nr6-m \x7b margin-right: -8rem; \x7d",
  "  .nr7-m \x7b margin-right: -16rem; \x7d",
  "  .nb1-m \x7b margin-bottom: -.25rem; \x7d",
  "  .nb2-m \x7b margin-bottom: -.5rem; \x7d",
  "  .nb3-m \x7b margin-bottom: -1rem; \x7d",
  "  .nb4-m \x7b margin-bottom: -2rem; \x7d",
  "  .nb5-m \x7b margin-bottom: -4rem; \x7d",
  "  .nb6-m \x7b margin-bottom: -8rem; \x7d",
  "  .nb7-m \x7b margin-bottom: -16rem; \x7d",
  "  .nt1-m \x7b margin-top: -.25rem; \x7d",
  "  .nt2-m \x7b margin-top: -.5rem; \x7d",
  "  .nt3-m \x7b margin-top: -1rem; \x7d",
  "  .nt4-m \x7b margin-top: -2rem; \x7d",
  "  .nt5-m \x7b margin-top: -4rem; \x7d",
  "  .nt6-m \x7b margin-top: -8rem; \x7d",
  "  .nt7-m \x7b margin-top: -16rem; \x7d",
  "  .strike-m \x7b text-decoration: line-through; \x7d",
  "  .underline-m \x7b text-decoration: underline; \x7d",
  "  .no-underline-m \x7b text-decoration: none; \x7d",
  "  .tl-m \x7b text-align: left; \x7d",
  "  .tr-m \x7b text-align: right; \x7d",
  "  .tc-m \x7b text-align: center; \x7d",
  "  .tj-m \x7b text-align: justify; \x7d",
  "  .ttc-m \x7b text-transform: capitalize; \x7d",
  "  .ttl-m \x7b text-transform: lowercase; \x7d",
  "  .ttu-m \x7b text-transform: uppercase; \x7d",
  "  .ttn-m \x7b text-transform: none; \x7d",
  "  .f-6-m, .f-headline-m \x7b font-size: 6rem; \x7d",
  "  .f-5-m, .f-subheadline-m \x7b font-size: 5rem; \x7d",
  "  .f1-m \x7b font-size: 3rem; \x7d",
  "  .f2-m \x7b font-size: 2.25rem; \x7d",
  "  .f3-m \x7b font-size: 1.5rem; \x7d",
  "  .f4-m \x7b font-size: 1.25rem; \x7d",
  "  .f5-m \x7b font-size: 1rem; \x7d",
  "  .f6-m \x7b font-size: .875rem; \x7d",
  "  .f7-m \x7b font-size: .75rem; \x7d",
  "  .measure-m \x7b max-width: 30em; \x7d",
  "  .measure-wide-m \x7b max-width: 34em; \x7d",
  "  .measure-narrow-m \x7b max-width: 20em; \x7d",
  "  .indent-m \x7b text-indent: 1em; margin-top: 0; margin-bottom: 0; \x7d",
  "  .small-caps-m \x7b font-variant: small-caps; \x7d",
  "  .truncate-m \x7b white-space: nowrap; overflow: hidden; text-overflow: ellipsis; \x7d",
  "  .center-m \x7b margin-right: auto; margin-left: auto; \x7d",
  "  .mr-auto-m \x7b margin-right: auto; \x7d",
  "  .ml-auto-m \x7b margin-left: auto; \x7d",
  "  .clip-m \x7b position: fixed !important; _position: absolute !important; clip: rect( 1px 1px 1px 1px ); /* IE6, IE7 */ clip: rect( 1px, 1px, 1px, 1px ); \x7d",
  "  .ws-normal-m \x7b white-space: normal; \x7d",
  "  .nowrap-m \x7b white-space: nowrap; \x7d",
  "  .pre-m \x7b white-space: pre; \x7d",
  "  .v-base-m \x7b vertical-align: baseline; \x7d",
  "  .v-mid-m \x7b vertical-align: middle; \x7d",
  "  .v-top-m \x7b vertical-align: top; \x7d",
  "  .v-btm-m \x7b vertical-align: bottom; \x7d",
  "\x7d"]

/-- Rules for large screens. -/
def large : List String := [
  "@media screen and (min-width: 60em) \x7b",
  "  .aspect-ratio-l \x7b height: 0; position: relative; \x7d",
  "  .aspect-ratio--16x9-l \x7b padding-bottom: 56.25%; \x7d",
  "  .aspect-ratio--9x16-l \x7b padding-bottom: 177.77%; \x7d",
  "  .aspect-ratio--4x3-l \x7b padding-bottom: 75%; \x7d",
  "  .aspect-ratio--3x4-l \x7b padding-bottom: 133.33%; \x7d",
  "  .aspect-ratio--6x4-l \x7b padding-bottom: 66.6%; \x7d",
  "  .aspect-ratio--4x6-l \x7b padding-bottom: 150%; \x7d",
  "  .aspect-ratio--8x5-l \x7b padding-bottom: 62.5%; \x7d",
  "  .aspect-ratio--5x8-l \x7b padding-bottom: 160%; \x7d",
  "  .aspect-ratio--7x5-l \x7b padding-bottom: 71.42%; \x7d",
  "  .aspect-ratio--5x7-l \x7b padding-bottom: 140%; \x7d",
  "  .aspect-ratio--1x1-l \x7b padding-bottom: 100%; \x7d",
  "  .aspect-ratio--object-l \x7b position: absolute; top: 0; right: 0; bottom: 0; left: 0; width: 100%; height: 100%; z-index: 100; \x7d",
  "  .cover-l \x7b background-size: cover !important; \x7d",
  "  .contain-l \x7b background-size: contain !important; \x7d",
  "  .bg-center-l \x7b background-repeat: no-repeat; background-position: center center; \x7d",
  "  .bg-top-l \x7b background-repeat: no-repeat; background-position: top center; \x7d",
  "  .bg-right-l \x7b background-repeat: no-repeat; background-position: center right; \x7d",
  "  .bg-bottom-l \x7b background-repeat: no-repeat; background-position: bottom center; \x7d",
  "  .bg-left-l \x7b background-repeat: no-repeat; background-position: center left; \x7d",
  "  .outline-l \x7b outline: 1px solid; \x7d",
  "  .outline-transparent-l \x7b outline: 1px solid transparent; \x7d",
  "  .outline-0-l \x7b outline: 0; \x7d",
  "  .ba-l \x7b border-style: solid; border-width: 1px; \x7d",
  "  .bt-l \x7b border-top-style: solid; border-top-width: 1px; \x7d",
  "  .br-l \x7b border-right-style: solid; border-right-width: 1px; \x7d",
  "  .bb-l \x7b border-bottom-style: solid; border-bottom-width: 1px; \x7d",
  "  .bl-l \x7b border-left-style: solid; border-left-width: 1px; \x7d",
  "  .bn-l \x7b border-style: none; border-width: 0; \x7d",
  "  .br0-l \x7b border-radius: 0; \x7d",
  "  .br1-l \x7b border-radius: .125rem; \x7d",
  "  .br2-l \x7b border-radius: .25rem; \x7d",
  "  .br3-l \x7b border-radius: .5rem; \x7d",
  "  .br4-l \x7b border-radius: 1rem; \x7d",
  "  .br-100-l \x7b border-radius: 100%; \x7d",
  "  .br-pill-l \x7b border-radius: 9999px; \x7d",
  "  .br--bottom-l \x7b border-top-left-radius: 0; border-top-right-radius: 0; \x7d",
  "  .br--top-l \x7b border-bottom-left-radius: 0; border-bottom-right-radius: 0; \x7d",
  "  .br--right-l \x7b border-top-left-radius: 0; border-bottom-left-radius: 0; \x7d",
  "  .br--left-l \x7b border-top-right-radius: 0; border-bottom-right-radius: 0; \x7d",
  "  .br-inherit-l \x7b border-radius: inherit; \x7d",
  "  .br-initial-l \x7b border-radius: initial; \x7d",
  "  .br-unset-l \x7b border-radius: unset; \x7d",
  "  .b--dotted-l \x7b border-style: dotted; \x7d",
  "  .b--dashed-l \x7b border-style: dashed; \x7d",
  "  .b--solid-l \x7b border-style: solid; \x7d",
  "  .b--none-l \x7b border-style: none; \x7d",
  "  .bw0-l \x7b border-width: 0; \x7d",
  "  .bw1-l \x7b border-width: .125rem; \x7d",
  "  .bw2-l \x7b border-width: .25rem; \x7d",
  "  .bw3-l \x7b border-width: .5rem; \x7d",
  "  .bw4-l \x7b border-width: 1rem; \x7d",
  "  .bw5-l \x7b border-width: 2rem; \x7d",
  "  .bt-0-l \x7b border-top-width: 0; \x7d",
  "  .br-0-l \x7b border-right-width: 0; \x7d",
  "  .bb-0-l \x7b border-bottom-width: 0; \x7d",
  "  .bl-0-l \x7b border-left-width: 0; \x7d",
  "  .shadow-1-l \x7b box-shadow: 0px 0px 4px 2px rgba( 0, 0, 0, 0.2 ); \x7d",
  "  .shadow-2-l \x7b box-shadow: 0px 0px 8px 2px rgba( 0, 0, 0, 0.2 ); \x7d",
  "  .shadow-3-l \x7b box-shadow: 2px 2px 4px 2px rgba( 0, 0, 0, 0.2 ); \x7d",
  "  .shadow-4-l \x7b box-shadow: 2px 2px 8px 0px rgba( 0, 0, 0, 0.2 ); \x7d",
  "  .shadow-5-l \x7b box-shadow: 4px 4px 8px 0px rgba( 0, 0, 0, 0.2 ); \x7d",
  "  .top-0-l \x7b top: 0; \x7d",
  "  .right-0-l \x7b right: 0; \x7d",
  "  .bottom-0-l \x7b bottom: 0; \x7d",
  "  .left-0-l \x7b left: 0; \x7d",
  "  .top-1-l \x7b top: 1rem; \x7d",
  "  .right-1-l \x7b right: 1rem; \x7d",
  "  .bottom-1-l \x7b bottom: 1rem; \x7d",
  "  .left-1-l \x7b left: 1rem; \x7d",
  "  .top-2-l \x7b top: 2rem; \x7d",
  "  .right-2-l \x7b right: 2rem; \x7d",
  "  .bottom-2-l \x7b bottom: 2rem; \x7d",
  "  .left-2-l \x7b left: 2rem; \x7d",
  "  .top--1-l \x7b top: -1rem; \x7d",
  "  .right--1-l \x7b right: -1rem; \x7d",
  "  .bottom--1-l \x7b bottom: -1rem; \x7d",
  "  .left--1-l \x7b left: -1rem; \x7d",
  "  .top--2-l \x7b top: -2rem; \x7d",
  "  .right--2-l \x7b right: -2rem; \x7d",
  "  .bottom--2-l \x7b bottom: -2rem; \x7d",
  "  .left--2-l \x7b left: -2rem; \x7d",
  "  .absolute--fill-l \x7b top: 0; right: 0; bottom: 0; left: 0; \x7d",
  "  .cl-l \x7b clear: left; \x7d",
  "  .cr-l \x7b clear: right; \x7d",
  "  .cb-l \x7b clear: both; \x7d",
  "  .cn-l \x7b clear: none; \x7d",
  "  .dn-l \x7b display: none; \x7d",
  "  .di-l \x7b display: inline; \x7d",
  "  .db-l \x7b display: block; \x7d",
  "  .dib-l \x7b display: inline-block; \x7d",
  "  .dit-l \x7b display: inline-table; \x7d",
  "  .dt-l \x7b display: table; \x7d",
  "  .dtc-l \x7b display: table-cell; \x7d",
  "  .dt-row-l \x7b display: table-row; \x7d",
  "  .dt-row-group-l \x7b display: table-row-group; \x7d",
  "  .dt-column-l \x7b display: table-column; \x7d",
  "  .dt-column-group-l \x7b display: table-column-group; \x7d",
  "  .dt--fixed-l \x7b table-layout: fixed; width: 100%; \x7d",
  "  .flex-l \x7b display: flex; \x7d",
  "  .inline-flex-l \x7b display: inline-flex; \x7d",
  "  .flex-auto-l \x7b flex: 1 1 auto; min-width: 0; /* 1 */ min-height: 0; /* 1 */ \x7d",
  "  .flex-none-l \x7b flex: none; \x7d",
  "  .flex-column-l \x7b flex-direction: column; \x7d",
  "  .flex-row-l \x7b flex-direction: row; \x7d",
  "  .flex-wrap-l \x7b flex-wrap: wrap; \x7d",
  "  .flex-nowrap-l \x7b flex-wrap: nowrap; \x7d",
  "  .flex-wrap-reverse-l \x7b flex-wrap: wrap-reverse; \x7d",
  "  .flex-column-reverse-l \x7b flex-direction: column-reverse; \x7d",
  "  .flex-row-reverse-l \x7b flex-direction: row-reverse; \x7d",
  "  .items-start-l \x7b align-items: flex-start; \x7d",
  "  .items-end-l \x7b align-items: flex-end; \x7d",
  "  .items-center-l \x7b align-items: center; \x7d",
  "  .items-baseline-l \x7b align-items: baseline; \x7d",
  "  .items-stretch-l \x7b align-items: stretch; \x7d",
  "  .self-start-l \x7b align-self: flex-start; \x7d",
  "  .self-end-l \x7b align-self: flex-end; \x7d",
  "  .self-center-l \x7b align-self: center; \x7d",
  "  .self-baseline-l \x7b align-self: baseline; \x7d",
  "  .self-stretch-l \x7b align-self: stretch; \x7d",
  "  .justify-start-l \x7b justify-content: flex-start; \x7d",
  "  .justify-end-l \x7b justify-content: flex-end; \x7d",
  "  .justify-center-l \x7b justify-content: center; \x7d",
  "  .justify-between-l \x7b justify-content: space-between; \x7d",
  "  .justify-around-l \x7b justify-content: space-around; \x7d",
  "  .content-start-l \x7b align-content: flex-start; \x7d",
  "  .content-end-l \x7b align-content: flex-end; \x7d",
  "  .content-center-l \x7b align-content: center; \x7d",
  "  .content-between-l \x7b align-content: space-between; \x7d",
  "  .content-around-l \x7b align-content: space-around; \x7d",
  "  .content-stretch-l \x7b align-content: stretch; \x7d",
  "  .order-0-l \x7b order: 0; \x7d",
  "  .order-1-l \x7b order: 1; \x7d",
  "  .order-2-l \x7b order: 2; \x7d",
  "  .order-3-l \x7b order: 3; \x7d",
  "  .order-4-l \x7b order: 4; \x7d",
  "  .order-5-l \x7b order: 5; \x7d",
  "  .order-6-l \x7b order: 6; \x7d",
  "  .order-7-l \x7b order: 7; \x7d",
  "  .order-8-l \x7b order: 8; \x7d",
  "  .order-last-l \x7b order: 99999; \x7d",
  "  .flex-grow-0-l \x7b flex-grow: 0; \x7d",
  "  .flex-grow-1-l \x7b flex-grow: 1; \x7d",
  "  .flex-shrink-0-l \x7b flex-shrink: 0; \x7d",
  "  .flex-shrink-1-l \x7b flex-shrink: 1; \x7d",
  "  .fl-l \x7b float: left; _display: inline; \x7d",
  "  .fr-l \x7b float: right; _display: inline; \x7d",
  "  .fn-l \x7b float: none; \x7d",
  "  .i-l \x7b font-style: italic; \x7d",
  "  .fs-normal-l \x7b font-style: normal; \x7d",
  "  .normal-l \x7b font-weight: normal; \x7d",
  "  .b-l \x7b font-weight: bold; \x7d",
  "  .fw1-l \x7b font-weight: 100; \x7d",
  "  .fw2-l \x7b font-weight: 200; \x7d",
  "  .fw3-l \x7b font-weight: 300; \x7d",
  "  .fw4-l \x7b font-weight: 400; \x7d",
  "  .fw5-l \x7b font-weight: 500; \x7d",
  "  .fw6-l \x7b font-weight: 600; \x7d",
  "  .fw7-l \x7b font-weight: 700; \x7d",
  "  .fw8-l \x7b font-weight: 800; \x7d",
  "  .fw9-l \x7b font-weight: 900; \x7d",
  "  .h1-l \x7b height: 1rem; \x7d",
  "  .h2-l \x7b height: 2rem; \x7d",
  "  .h3-l \x7b height: 4rem; \x7d",
  "  .h4-l \x7b height: 8rem; \x7d",
  "  .h5-l \x7b height: 16rem; \x7d",
  "  .h-25-l \x7b height: 25%; \x7d",
  "  .h-50-l \x7b height: 50%; \x7d",
  "  .h-75-l \x7b height: 75%; \x7d",
  "  .h-100-l \x7b height: 100%; \x7d",
  "  .min-h-100-l \x7b min-height: 100%; \x7d",
  "  .vh-25-l \x7b height: 25vh; \x7d",
  "  .vh-50-l \x7b height: 50vh; \x7d",
  "  .vh-75-l \x7b height: 75vh; \x7d",
  "  .vh-100-l \x7b height: 100vh; \x7d",
  "  .min-vh-100-l \x7b min-height: 100vh; \x7d",
  "  .h-auto-l \x7b height: auto; \x7d",
  "  .h-inherit-l \x7b height: inherit; \x7d",
  "  .tracked-l \x7b letter-spacing: .1em; \x7d",
  "  .tracked-tight-l \x7b letter-spacing: -.05em; \x7d",
  "  .tracked-mega-l \x7b letter-spacing: .25em; \x7d",
  "  .lh-solid-l \x7b line-height: 1; \x7d",
  "  .lh-title-l \x7b line-height: 1.25; \x7d",
  "  .lh-copy-l \x7b line-height: 1.5; \x7d",
  "  .mw-100-l \x7b max-width: 100%; \x7d",
  "  .mw1-l \x7b max-width: 1rem; \x7d",
  "  .mw2-l \x7b max-width: 2rem; \x7d",
  "  .mw3-l \x7b max-width: 4rem; \x7d",
  "  .mw4-l \x7b max-width: 8rem; \x7d",
  "  .mw5-l \x7b max-width: 16rem; \x7d",
  "  .mw6-l \x7b max-width: 32rem; \x7d",
  "  .mw7-l \x7b max-width: 48rem; \x7d",
  "  .mw8-l \x7b max-width: 64rem; \x7d",
  "  .mw9-l \x7b max-width: 96rem; \x7d",
  "  .mw-none-l \x7b max-width: none; \x7d",
  "  .w1-l \x7b width: 1rem; \x7d",
  "  .w2-l \x7b width: 2rem; \x7d",
  "  .w3-l \x7b width: 4rem; \x7d",
  "  .w4-l \x7b width: 8rem; \x7d",
  "  .w5-l \x7b width: 16rem; \x7d",
  "  .w-10-l \x7b width: 10%; \x7d",
  "  .w-20-l \x7b width: 20%; \x7d",
  "  .w-25-l \x7b width: 25%; \x7d",
  "  .w-30-l \x7b width: 30%; \x7d",
  "  .w-33-l \x7b width: 33%; \x7d",
  "  .w-34-l \x7b width: 34%; \x7d",
  "  .w-40-l \x7b width: 40%; \x7d",
  "  .w-50-l \x7b width: 50%; \x7d",
  "  .w-60-l \x7b width: 60%; \x7d",
  "  .w-70-l \x7b width: 70%; \x7d",
  "  .w-75-l \x7b width: 75%; \x7d",
  "  .w-80-l \x7b width: 80%; \x7d",
  "  .w-90-l \x7b width: 90%; \x7d",
  "  .w-100-l \x7b width: 100%; \x7d",
  "  .w-third-l \x7b width: calc( 100% / 3 ); \x7d",
  "  .w-two-thirds-l \x7b width: calc( 100% / 1.5 ); \x7d",
  "  .w-auto-l \x7b width: auto; \x7d",
  "  .overflow-visible-l \x7b overflow: visible; \x7d",
  "  .overflow-hidden-l \x7b overflow: hidden; \x7d",
  "  .overflow-scroll-l \x7b overflow: scroll; \x7d",
  "  .overflow-auto-l \x7b overflow: auto; \x7d",
  "  .overflow-x-visible-l \x7b overflow-x: visible; \x7d",
  "  .overflow-x-hidden-l \x7b overflow-x: hidden; \x7d",
  "  .overflow-x-scroll-l \x7b overflow-x: scroll; \x7d",
  "  .overflow-x-auto-l \x7b overflow-x: auto; \x7d",
  "  .overflow-y-visible-l \x7b overflow-y: visible; \x7d",
  "  .overflow-y-hidden-l \x7b overflow-y: hidden; \x7d",
  "  .overflow-y-scroll-l \x7b overflow-y: scroll; \x7d",
  "  .overflow-y-auto-l \x7b overflow-y: auto; \x7d",
  "  .static-l \x7b position: static; \x7d",
  "  .relative-l \x7b position: relative; \x7d",
  "  .absolute-l \x7b position: absolute; \x7d",
  "  .fixed-l \x7b position: fixed; \x7d",
  "  .rotate-45-l \x7b -webkit-transform: rotate( 45deg ); transform: rotate( 45deg ); \x7d",
  "  .rotate-90-l \x7b -webkit-transform: rotate( 90deg ); transform: rotate( 90deg ); \x7d",
  "  .rotate-135-l \x7b -webkit-transform: rotate( 135deg ); transform: rotate( 135deg ); \x7d",
  "  .rotate-180-l \x7b -webkit-transform: rotate( 180deg ); transform: rotate( 180deg ); \x7d",
  "  .rotate-225-l \x7b -webkit-transform: rotate( 225deg ); transform: rotate( 225deg ); \x7d",
  "  .rotate-270-l \x7b -webkit-transform: rotate( 270deg ); transform: rotate( 270deg ); \x7d",
  "  .rotate-315-l \x7b -webkit-transform: rotate( 315deg ); transform: rotate( 315deg ); \x7d",
  "  .pa0-l \x7b padding: 0; \x7d",
  "  .pa1-l \x7b padding: .25rem; \x7d",
  "  .pa2-l \x7b padding: .5rem; \x7d",
  "  .pa3-l \x7b padding: 1rem; \x7d",
  "  .pa4-l \x7b padding: 2rem; \x7d",
  "  .pa5-l \x7b padding: 4rem; \x7d",
  "  .pa6-l \x7b padding: 8rem; \x7d",
  "  .pa7-l \x7b padding: 16rem; \x7d",
  "  .pl0-l \x7b padding-left: 0; \x7d",
  "  .pl1-l \x7b padding-left: .25rem; \x7d",
  "  .pl2-l \x7b padding-left: .5rem; \x7d",
  "  .pl3-l \x7b padding-left: 1rem; \x7d",
  "  .pl4-l \x7b padding-left: 2rem; \x7d",
  "  .pl5-l \x7b padding-left: 4rem; \x7d",
  "  .pl6-l \x7b padding-left: 8rem; \x7d",
  "  .pl7-l \x7b padding-left: 16rem; \x7d",
  "  .pr0-l \x7b padding-right: 0; \x7d",
  "  .pr1-l \x7b padding-right: .25rem; \x7d",
  "  .pr2-l \x7b padding-right: .5rem; \x7d",
  "  .pr3-l \x7b padding-right: 1rem; \x7d",
  "  .pr4-l \x7b padding-right: 2rem; \x7d",
  "  .pr5-l \x7b padding-right: 4rem; \x7d",
  "  .pr6-l \x7b padding-right: 8rem; \x7d",
  "  .pr7-l \x7b padding-right: 16rem; \x7d",
  "  .pb0-l \x7b padding-bottom: 0; \x7d",
  "  .pb1-l \x7b padding-bottom: .25rem; \x7d",
  "  .pb2-l \x7b padding-bottom: .5rem; \x7d",
  "  .pb3-l \x7b padding-bottom: 1rem; \x7d",
  "  .pb4-l \x7b padding-bottom: 2rem; \x7d",
  "  .pb5-l \x7b padding-bottom: 4rem; \x7d",
  "  .pb6-l \x7b padding-bottom: 8rem; \x7d",
  "  .pb7-l \x7b padding-bottom: 16rem; \x7d",
  "  .pt0-l \x7b padding-top: 0; \x7d",
  "  .pt1-l \x7b padding-top: .25rem; \x7d",
  "  .pt2-l \x7b padding-top: .5rem; \x7d",
  "  .pt3-l \x7b padding-top: 1rem; \x7d",
  "  .pt4-l \x7b padding-top: 2rem; \x7d",
  "  .pt5-l \x7b padding-top: 4rem; \x7d",
  "  .pt6-l \x7b padding-top: 8rem; \x7d",
  "  .pt7-l \x7b padding-top: 16rem; \x7d",
  "  .pv0-l \x7b padding-top: 0; padding-bottom: 0; \x7d",
  "  .pv1-l \x7b padding-top: .25rem; padding-bottom: .25rem; \x7d",
  "  .pv2-l \x7b padding-top: .5rem; padding-bottom: .5rem; \x7d",
  "  .pv3-l \x7b padding-top: 1rem; padding-bottom: 1rem; \x7d",
  "  .pv4-l \x7b padding-top: 2rem; padding-bottom: 2rem; \x7d",
  "  .pv5-l \x7b padding-top: 4rem; padding-bottom: 4rem; \x7d",
  "  .pv6-l \x7b padding-top: 8rem; padding-bottom: 8rem; \x7d",
  "  .pv7-l \x7b padding-top: 16rem; padding-bottom: 16rem; \x7d",
  "  .ph0-l \x7b padding-left: 0; padding-right: 0; \x7d",
  "  .ph1-l \x7b padding-left: .25rem; padding-right: .25rem; \x7d",
  "  .ph2-l \x7b padding-left: .5rem; padding-right: .5rem; \x7d",
  "  .ph3-l \x7b padding-left: 1rem; padding-right: 1rem; \x7d",
  "  .ph4-l \x7b padding-left: 2rem; padding-right: 2rem; \x7d",
  "  .ph5-l \x7b padding-left: 4rem; padding-right: 4rem; \x7d",
  "  .ph6-l \x7b padding-left: 8rem; padding-right: 8rem; \x7d",
  "  .ph7-l \x7b padding-left: 16rem; padding-right: 16rem; \x7d",
  "  .ma0-l \x7b margin: 0; \x7d",
  "  .ma1-l \x7b margin: .25rem; \x7d",
  "  .ma2-l \x7b margin: .5rem; \x7d",
  "  .ma3-l \x7b margin: 1rem; \x7d",
  "  .ma4-l \x7b margin: 2rem; \x7d",
  "  .ma5-l \x7b margin: 4rem; \x7d",
  "  .ma6-l \x7b margin: 8rem; \x7d",
  "  .ma7-l \x7b margin: 16rem; \x7d",
  "  .ml0-l \x7b margin-left: 0; \x7d",
  "  .ml1-l \x7b margin-left: .25rem; \x7d",
  "  .ml2-l \x7b margin-left: .5rem; \x7d",
  "  .ml3-l \x7b margin-left: 1rem; \x7d",
  "  .ml4-l \x7b margin-left: 2rem; \x7d",
  "  .ml5-l \x7b margin-left: 4rem; \x7d",
  "  .ml6-l \x7b margin-left: 8rem; \x7d",
  "  .ml7-l \x7b margin-left: 16rem; \x7d",
  "  .mr0-l \x7b margin-right: 0; \x7d",
  "  .mr1-l \x7b margin-right: .25rem; \x7d",
  "  .mr2-l \x7b margin-right: .5rem; \x7d",
  "  .mr3-l \x7b margin-right: 1rem; \x7d",
  "  .mr4-l \x7b margin-right: 2rem; \x7d",
  "  .mr5-l \x7b margin-right: 4rem; \x7d",
  "  .mr6-l \x7b margin-right: 8rem; \x7d",
  "  .mr7-l \x7b margin-right: 16rem; \x7d",
  "  .mb0-l \x7b margin-bottom: 0; \x7d",
  "  .mb1-l \x7b margin-bottom: .25rem; \x7d",
  "  .mb2-l \x7b margin-bottom: .5rem; \x7d",
  "  .mb3-l \x7b margin-bottom: 1rem; \x7d",
  "  .mb4-l \x7b margin-bottom: 2rem; \x7d",
  "  .mb5-l \x7b margin-bottom: 4rem; \x7d",
  "  .mb6-l \x7b margin-bottom: 8rem; \x7d",
  "  .mb7-l \x7b margin-bottom: 16rem; \x7d",
  "  .mt0-l \x7b margin-top: 0; \x7d",
  "  .mt1-l \x7b margin-top: .25rem; \x7d",
  "  .mt2-l \x7b margin-top: .5rem; \x7d",
  "  .mt3-l \x7b margin-top: 1rem; \x7d",
  "  .mt4-l \x7b margin-top: 2rem; \x7d",
  "  .mt5-l \x7b margin-top: 4rem; \x7d",
  "  .mt6-l \x7b margin-top: 8rem; \x7d",
  "  .mt7-l \x7b margin-top: 16rem; \x7d",
  "  .mv0-l \x7b margin-top: 0; margin-bottom: 0; \x7d",
  "  .mv1-l \x7b margin-top: .25rem; margin-bottom: .25rem; \x7d",
  "  .mv2-l \x7b margin-top: .5rem; margin-bottom: .5rem; \x7d",
  "  .mv3-l \x7b margin-top: 1rem; margin-bottom: 1rem; \x7d",
  "  .mv4-l \x7b margin-top: 2rem; margin-bottom: 2rem; \x7d",
  "  .mv5-l \x7b margin-top: 4rem; margin-bottom: 4rem; \x7d",
  "  .mv6-l \x7b margin-top: 8rem; margin-bottom: 8rem; \x7d",
  "  .mv7-l \x7b margin-top: 16rem; margin-bottom: 16rem; \x7d",
  "  .mh0-l \x7b margin-left: 0; margin-right: 0; \x7d",
  "  .mh1-l \x7b margin-left: .25rem; margin-right: .25rem; \x7d",
  "  .mh2-l \x7b margin-left: .5rem; margin-right: .5rem; \x7d",
  "  .mh3-l \x7b margin-left: 1rem; margin-right: 1rem; \x7d",
  "  .mh4-l \x7b margin-left: 2rem; margin-right: 2rem; \x7d",
  "  .mh5-l \x7b margin-left: 4rem; margin-right: 4rem; \x7d",
  "  .mh6-l \x7b margin-left: 8rem; margin-right: 8rem; \x7d",
  "  .mh7-l \x7b margin-left: 16rem; margin-right: 16rem; \x7d",
  "  .na1-l \x7b margin: -.25rem; \x7d",
  "  .na2-l \x7b margin: -.5rem; \x7d",
  "  .na3-l \x7b margin: -1rem; \x7d",
  "  .na4-l \x7b margin: -2rem; \x7d",
  "  .na5-l \x7b margin: -4rem; \x7d",
  "  .na6-l \x7b margin: -8rem; \x7d",
  "  .na7-l \x7b margin: -16rem; \x7d",
  "  .nl1-l \x7b margin-left: -.25rem; \x7d",
  "  .nl2-l \x7b margin-left: -.5rem; \x7d",
  "  .nl3-l \x7b margin-left: -1rem; \x7d",
  "  .nl4-l \x7b margin-left: -2rem; \x7d",
  "  .nl5-l \x7b margin-left: -4rem; \x7d",
  "  .nl6-l \x7b margin-left: -8rem; \x7d",
  "  .nl7-l \x7b margin-left: -16rem; \x7d",
  "  .nr1-l \x7b margin-right: -.25rem; \x7d",
  "  .nr2-l \x7b margin-right: -.5rem; \x7d",
  "  .nr3-l \x7b margin-right: -1rem; \x7d",
  "  .nr4-l \x7b margin-right: -2rem; \x7d",
  "  .nr5-l \x7b margin-right: -4rem; \x7d",
  "  .nr6-l \x7b margin-right: -8rem; \x7d",
  "  .nr7-l \x7b margin-right: -16rem; \x7d",
  "  .nb1-l \x7b margin-bottom: -.25rem; \x7d",
  "  .nb2-l \x7b margin-bottom: -.5rem; \x7d",
  "  .nb3-l \x7b margin-bottom: -1rem; \x7d",
  "  .nb4-l \x7b margin-bottom: -2rem; \x7d",
  "  .nb5-l \x7b margin-bottom: -4rem; \x7d",
  "  .nb6-l \x7b margin-bottom: -8rem; \x7d",
  "  .nb7-l \x7b margin-bottom: -16rem; \x7d",
  "  .nt1-l \x7b margin-top: -.25rem; \x7d",
  "  .nt2-l \x7b margin-top: -.5rem; \x7d",
  "  .nt3-l \x7b margin-top: -1rem; \x7d",
  "  .nt4-l \x7b margin-top: -2rem; \x7d",
  "  .nt5-l \x7b margin-top: -4rem; \x7d",
  "  .nt6-l \x7b margin-top: -8rem; \x7d",
  "  .nt7-l \x7b margin-top: -16rem; \x7d",
  "  .strike-l \x7b text-decoration: line-through; \x7d",
  "  .underline-l \x7b text-decoration: underline; \x7d",
  "  .no-underline-l \x7b text-decoration: none; \x7d",
  "  .tl-l \x7b text-align: left; \x7d",
  "  .tr-l \x7b text-align: right; \x7d",
  "  .tc-l \x7b text-align: center; \x7d",
  "  .tj-l \x7b text-align: justify; \x7d",
  "  .ttc-l \x7b text-transform: capitalize; \x7d",
  "  .ttl-l \x7b text-transform: lowercase; \x7d",
  "  .ttu-l \x7b text-transform: uppercase; \x7d",
  "  .ttn-l \x7b text-transform: none; \x7d",
  "  .f-6-l, .f-headline-l \x7b font-size: 6rem; \x7d",
  "  .f-5-l, .f-subheadline-l \x7b font-size: 5rem; \x7d",
  "  .f1-l \x7b font-size: 3rem; \x7d",
  "  .f2-l \x7b font-size: 2.25rem; \x7d",
  "  .f3-l \x7b font-size: 1.5rem; \x7d",
  "  .f4-l \x7b font-size: 1.25rem; \x7d",
  "  .f5-l \x7b font-size: 1rem; \x7d",
  "  .f6-l \x7b font-size: .875rem; \x7d",
  "  .f7-l \x7b font-size: .75rem; \x7d",
  "  .measure-l \x7b max-width: 30em; \x7d",
  "  .measure-wide-l \x7b max-width: 34em; \x7d",
  "  .measure-narrow-l \x7b max-width: 20em; \x7d",
  "  .indent-l \x7b text-indent: 1em; margin-top: 0; margin-bottom: 0; \x7d",
  "  .small-caps-l \x7b font-variant: small-caps; \x7d",
  "  .truncate-l \x7b white-space: nowrap; overflow: hidden; text-overflow: ellipsis; \x7d",
  "  .center-l \x7b margin-right: auto; margin-left: auto; \x7d",
  "  .mr-auto-l \x7b margin-right: auto; \x7d",
  "  .ml-auto-l \x7b margin-left: auto; \x7d",
  "  .clip-l \x7b position: fixed !important; _position: absolute !important; clip: rect( 1px 1px 1px 1px ); /* IE6, IE7 */ clip: rect( 1px, 1px, 1px, 1px ); \x7d",
  "  .ws-normal-l \x7b white-space: normal; \x7d",
  "  .nowrap-l \x7b white-space: nowrap; \x7d",
  "  .pre-l \x7b white-space: pre; \x7d",
  "  .v-base-l \x7b vertical-align: baseline; \x7d",
  "  .v-mid-l \x7b vertical-align: middle; \x7d",
  "  .v-top-l \x7b vertical-align: top; \x7d",
  "  .v-btm-l \x7b vertical-align: bottom; \x7d",
  "\x7d"]

end ClassAtlas.BuiltIn
