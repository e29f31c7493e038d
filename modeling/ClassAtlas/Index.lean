/-
The index of a stylesheet: for each class selector, the span of the last rule that lists it. A
class selector is one that starts with a dot; the selector is the key as it is kept, so `.a:hover`
and `.a .b` are keys of their own, and the class `a` is found only under `.a`.
-/
import ClassAtlas.Event
import ClassAtlas.Uri
import Std.Data.TreeMap

namespace ClassAtlas

/-- The place where a class is declared. -/
structure Declaration where
  uri : Uri
  span : Span
  deriving DecidableEq, Repr

/-- An index: its stylesheet, the URI of that, and the span for each class selector. -/
structure Index where
  sheet : Sheet
  uri : Uri
  spans : Std.TreeMap String Span

namespace Index

/-- A selector that starts with a dot. -/
def isClassSelector (selector : String) : Bool :=
  selector.toList.head? == some '.'

/-- The class selectors of some rules, each with the span of its rule, in the order of the rules. -/
def entriesOf (rules : List Stylesheet.StyleRule) : List (String × Span) :=
  rules.flatMap fun r => (r.selectors.filter isClassSelector).map fun s => (s, r.span)

/-- The spans by selector; of several spans for one selector the last counts. -/
def spansOf (entries : List (String × Span)) : Std.TreeMap String Span :=
  entries.foldl (fun spans (selector, span) => spans.insert selector span) ∅

/-- The number of selectors. -/
def size (i : Index) : Nat :=
  i.spans.size

/-- Looks up a selector, which for a class starts with a dot. -/
def get? (i : Index) (selector : String) : Option Declaration :=
  i.spans[selector]?.map fun span => ⟨i.uri, span⟩

/-- Looks up a class by its name. -/
def find? (i : Index) (name : String) : Option Declaration :=
  i.get? ("." ++ name)

/-- Indexes the text of a stylesheet. A path without a URI is refused before the text is looked
at; a text in which something was rejected and no rule found is refused after it. -/
def ofText (sheet : Sheet) (css : String) : Except IndexError Index × List Event :=
  match Uri.ofPath? sheet.path with
  | none => (.error (.invalidPath sheet.path), [])
  | some uri =>
    let found := Stylesheet.scan css
    let rules := Stylesheet.rulesOf found
    let rejected := Stylesheet.rejectionsOf found
    let events := rejected.map Event.rejected
    if rules.isEmpty && !rejected.isEmpty then
      (.error (.parse sheet.path rejected.length), events)
    else
      let index : Index := ⟨sheet, uri, spansOf (entriesOf rules)⟩
      let skipped := if rejected.isEmpty then [] else [Event.skipped rejected.length sheet.path]
      (.ok index, events ++ skipped ++ [.indexed index.size sheet.path])

/-- Reads the text of a stylesheet from its file. -/
def readSheet (fs : Files) (sheet : Sheet) : Except IndexError String :=
  (fs.readText sheet.path).mapError (.read sheet.path)

/-- Reads and indexes a stylesheet. -/
def load (fs : Files) (sheet : Sheet) : Except IndexError Index × List Event :=
  match readSheet fs sheet with
  | .error e => (.error e, [])
  | .ok css => ofText sheet css

end Index

end ClassAtlas
