import RequestRunner.Document.Line

/-!
# Regions

A separator or a method line is an *anchor*. A region runs from an anchor to the line before the
next region: a separator always opens one, and a method line opens one unless the region that is
open has waited for its method line since a separator. Lines before the first anchor belong to no
region.

## Main definitions

* `Region` — first line, method line if there is one, last line.
* `regions` — the regions of a list of line kinds.
-/

namespace RequestRunner

/-- A run of lines, all line numbers zero-based and inclusive. -/
structure Region where
  start : Nat
  methodLine : Option Nat
  last : Nat
  deriving DecidableEq

/-- A region whose last line is not known yet. -/
structure OpenRegion where
  start : Nat
  methodLine : Option Nat
  deriving DecidableEq

namespace OpenRegion

/-- The region when the next one starts at line `next`. -/
def closeAt (r : OpenRegion) (next : Nat) : Region := ⟨r.start, r.methodLine, next - 1⟩

end OpenRegion

/-- The regions that end in the lines of the list, the first of which has number `index`, where
`opened` is the region that is open before it. -/
def regionsFrom (index : Nat) (opened : Option OpenRegion) : List LineKind → List Region
  | [] => (opened.map (·.closeAt index)).toList
  | .separator :: kinds =>
    (opened.map (·.closeAt index)).toList ++ regionsFrom (index + 1) (some ⟨index, none⟩) kinds
  | .method _ _ :: kinds =>
    match opened with
    | some ⟨start, none⟩ => regionsFrom (index + 1) (some ⟨start, some index⟩) kinds
    | _ =>
      (opened.map (·.closeAt index)).toList ++
        regionsFrom (index + 1) (some ⟨index, some index⟩) kinds
  | _ :: kinds => regionsFrom (index + 1) opened kinds

/-- The regions of a document whose lines have these kinds, in order. -/
def regions (kinds : List LineKind) : List Region := regionsFrom 0 none kinds

end RequestRunner
