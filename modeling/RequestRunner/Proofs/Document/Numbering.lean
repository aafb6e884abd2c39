import RequestRunner.Proofs.Document.Contents

/-!
# Reading a document by line numbers

A document can be read with nothing but line numbers in hand: the number before another, the kind of
the line with a number, the text from one number to another. Each of these has an answer for some
numbers only, and a search among lines can find none. The reading of this file takes every missing
answer for a fault and stops there. It never does: the regions tile the document, so that every
number that comes up is that of a line, and what the reading gives are the blocks.

## Main definitions

* `LineFault` — an answer that is missing.
* `Scan`, `Scan.step`, `Scan.run`, `readRegions` — the regions, line by line.
* `Region.readBlock` — the block of a region.
* `readBlocks` — the blocks of a document.

## Main results

* `Scan.step_eq_ok`, `Scan.run_eq_ok` — one line and all lines of the scan.
* `IsRegion.lastFilled_spec`, `IsRegion.readBlock_eq_ok` — the end and the block of a region.
* `regions_tile_without_fault` — the regions of a document, and that nothing is missing.
* `readBlocks_eq_ok` — the blocks of a document.
-/

namespace RequestRunner

open LineKind

/-- An answer that is missing when lines are named by numbers. -/
inductive LineFault where
  | /-- The number before the first one. -/
    noneBefore
  | /-- A line that the document does not have. -/
    noLine (number : Nat)
  | /-- A line that is not blank, among lines that all are. -/
    allBlank
  | /-- The verb and the address of a line that is no method line. -/
    noMethod (number : Nat)
  | /-- The text from a line to one before it. -/
    backwards (first last : Nat)
  deriving DecidableEq

/-! ### The regions -/

/-- The number before another. -/
def numberBefore : Nat → Except LineFault Nat
  | 0 => throw .noneBefore
  | n + 1 => pure n

/-- What a scan has found before some line: the regions that are closed, in order, and the one that
is open. -/
structure Scan where
  closed : List Region
  opened : Option OpenRegion

namespace Scan

/-- The closed regions when the next one starts at line `next`. -/
def close (s : Scan) (next : Nat) : Except LineFault (List Region) :=
  match s.opened with
  | none => pure s.closed
  | some r => do
    let last ← numberBefore next
    pure (s.closed ++ [⟨r.start, r.methodLine, last⟩])

/-- The scan after line `n`, of the given kind. -/
def step (s : Scan) (n : Nat) : LineKind → Except LineFault Scan
  | .separator => do
    let closed ← s.close n
    pure ⟨closed, some ⟨n, none⟩⟩
  | .method _ _ =>
    match s.opened with
    | some ⟨start, none⟩ => pure { s with opened := some ⟨start, some n⟩ }
    | _ => do
      let closed ← s.close n
      pure ⟨closed, some ⟨n, some n⟩⟩
  | _ => pure s

/-- The regions after the lines from `n` on. -/
def run (s : Scan) (n : Nat) : List LineKind → Except LineFault (List Region)
  | [] => s.close n
  | kind :: rest => do
    let s' ← s.step n kind
    s'.run (n + 1) rest

/-- The region that is open before line `n` starts before that line. -/
def Before (n : Nat) (s : Scan) : Prop := ∀ r ∈ s.opened, r.start < n

variable {s : Scan} {n : Nat} {kind : LineKind}

/-- The open region of a scan is closed on the line before `n`. There is one, since the region
starts before `n`. -/
lemma close_eq_ok (h : s.Before n) :
    s.close n = .ok (s.closed ++ (s.opened.map (·.closeAt n)).toList) := by
  obtain ⟨closed, _ | r⟩ := s
  · simp [close, pure, Except.pure]
  · obtain ⟨m, rfl⟩ := Nat.exists_eq_add_of_lt (h r rfl)
    rfl

/-- **One line of the scan.** No number is missing, the region that is open behind the line starts
at the line or before it, and the regions from here on are those that `regionsFrom` gives.

**Proof sketch.** By the ways to treat a line (`scan_cases`). Only where a region is closed is a
number asked for that may be missing, and then `close_eq_ok` has it. -/
theorem step_eq_ok (h : s.Before n) (kind : LineKind) :
    ∃ s', s.step n kind = .ok s' ∧ s'.Before (n + 1) ∧
      ∀ rest, s.closed ++ regionsFrom n s.opened (kind :: rest) =
        s'.closed ++ regionsFrom (n + 1) s'.opened rest := by
  obtain ⟨closed, opened⟩ := s
  have hold : ∀ r ∈ opened, r.start < n + 1 := fun r hr => Nat.lt_succ_of_lt (h r hr)
  have hnew : ∀ closed methodLine, Before (n + 1) ⟨closed, some ⟨n, methodLine⟩⟩ := by
    rintro closed methodLine r ⟨⟩
    exact Nat.lt_succ_self n
  -- what is closed when a region opens at line `n`
  obtain ⟨all, hall⟩ : ∃ all, closed ++ (opened.map (·.closeAt n)).toList = all := ⟨_, rfl⟩
  have hclose : close ⟨closed, opened⟩ n = .ok all := hall ▸ close_eq_ok h
  rcases scan_cases kind opened with hpass | rfl | ⟨m, url, start, rfl, rfl⟩ | ⟨m, url, rfl, hw⟩
  · refine ⟨⟨closed, opened⟩, ?_, hold, fun rest => by rw [regionsFrom_of_not_isAnchor hpass]⟩
    cases kind with
    | separator | method => exact absurd rfl hpass
    | comment | blank | header | text => rfl
  · refine ⟨⟨all, some ⟨n, none⟩⟩, ?_, hnew _ _, fun rest => ?_⟩
    · rw [step, hclose]
      rfl
    · rw [regionsFrom, ← List.append_assoc, hall]
  · refine ⟨⟨closed, some ⟨start, some n⟩⟩, rfl, ?_, fun rest => rfl⟩
    rintro r ⟨⟩
    exact hold ⟨start, none⟩ rfl
  · refine ⟨⟨all, some ⟨n, some n⟩⟩, ?_, hnew _ _, fun rest => ?_⟩
    · rcases opened with _ | ⟨start, _ | m'⟩
      · rw [step, hclose]
        rfl
      · exact absurd rfl (hw start)
      · rw [step, hclose]
        rfl
    · rw [regionsFrom_method_of_not_waiting hw, ← List.append_assoc, hall]

/-- **All lines of the scan** from `n` on: induction on them, by the step for one line. -/
theorem run_eq_ok (h : s.Before n) (rest : List LineKind) :
    s.run n rest = .ok (s.closed ++ regionsFrom n s.opened rest) := by
  induction rest generalizing s n with
  | nil => exact close_eq_ok h
  | cons kind rest ih =>
    obtain ⟨s', hstep, hbefore, hregions⟩ := step_eq_ok h kind
    rw [run, hstep, hregions]
    exact ih hbefore

end Scan

/-- The regions of a document whose lines have these kinds, in order. -/
def readRegions (kinds : List LineKind) : Except LineFault (List Region) :=
  Scan.run ⟨[], none⟩ 0 kinds

/-- **The regions are read without a fault.** Before the first line no region is open. -/
theorem readRegions_eq_ok (kinds : List LineKind) : readRegions kinds = .ok (regions kinds) := by
  rw [readRegions, Scan.run_eq_ok (by rintro r ⟨⟩)]
  rfl

/-! ### The block of a region -/

/-- The kind of the line with the number. -/
def kindAt (kinds : List LineKind) (number : Nat) : Except LineFault LineKind :=
  match kinds[number]? with
  | some kind => pure kind
  | none => throw (.noLine number)

/-- The number of the last line from `first` to `last` that is not blank. -/
def lastFilledAt (kinds : List LineKind) (first last : Nat) : Except LineFault Nat := do
  let found ← (List.range' first (last + 1 - first)).reverse.findM? fun number => do
    let kind ← kindAt kinds number
    pure (kind != .blank)
  match found with
  | some number => pure number
  | none => throw .allBlank

/-- The headers after those of `count` lines from the given one on, and the number behind the first
blank one among these lines, which ends the headers. -/
def headersAt (kinds : List LineKind) (headers : Headers) (number : Nat) :
    Nat → Except LineFault (Headers × Option Nat)
  | 0 => pure (headers, none)
  | count + 1 => do
    match ← kindAt kinds number with
    | .blank => pure (headers, some (number + 1))
    | .header name value => headersAt kinds (headers.insert name value) (number + 1) count
    | _ => headersAt kinds headers (number + 1) count

/-- The text up to line `last` from a line on, if there is one. -/
def bodyAt (lines : List String) (last : Nat) : Option Nat → Except LineFault String
  | none => pure ""
  | some first =>
    if last < first then throw (.backwards first last)
    else if last < lines.length then pure (Text.joinLines (lines.extract first (last + 1)))
    else throw (.noLine last)

/-- The block of a region, if the region has a method line. -/
def Region.readBlock (lines : List String) (kinds : List LineKind) (r : Region) :
    Except LineFault (Option Block) :=
  match r.methodLine with
  | none => pure none
  | some m => do
    let .method verb url ← kindAt kinds m | throw (.noMethod m)
    let last ← lastFilledAt kinds m r.last
    let (headers, bodyStart) ← headersAt kinds .empty (m + 1) (last - m)
    let body ← bodyAt lines last bodyStart
    pure (some ⟨verb, url, headers, body, r.start, last, m⟩)

variable {lines : List String} {kinds : List LineKind} {r : Region} {first last m n : Nat}

/-- A line of the document has a kind. -/
lemma kindAt_eq_ok {kind : LineKind} (h : kinds[n]? = some kind) : kindAt kinds n = .ok kind := by
  rw [kindAt, h]
  rfl

/-- A search by a test that always answers is the search by its answers. -/
lemma findM?_eq_ok {p : Nat → Except LineFault Bool} {q : Nat → Bool} {numbers : List Nat}
    (h : ∀ number ∈ numbers, p number = .ok (q number)) :
    numbers.findM? p = .ok (numbers.find? q) := by
  induction numbers with
  | nil => rfl
  | cons number numbers ih =>
    rw [List.findM?, h number List.mem_cons_self, List.find?_cons]
    cases q number with
    | true => rfl
    | false => exact ih fun number' hn => h number' (List.mem_cons_of_mem number hn)

/-- The backwards search finds the last line that is not blank, if it starts from a line of the
document and ends at one that is not blank. All lines that it looks at are of the document, and the
one at which it ends is found at the latest.

**Proof sketch.** Each number that is looked at is below the length of the list, so looking does not
fault and tells what the line is. The search with such a test is the one that is known to end at the
last filled line (`lastLine?_eq_lastFilled`). -/
lemma lastFilledAt_eq_ok (hm : lineIs kinds isFilled m) (hle : m ≤ last)
    (hlt : last < kinds.length) : lastFilledAt kinds m last = .ok (lastFilled kinds m last) := by
  have htest : ∀ number ∈ (List.range' m (last + 1 - m)).reverse,
      (do let kind ← kindAt kinds number; pure (kind != .blank) : Except LineFault Bool) =
        .ok (lineIs kinds isFilled number) := by
    intro number hn
    rw [List.mem_reverse, List.mem_range'_1] at hn
    have hk : kinds[number]? = some kinds[number] := List.getElem?_eq_getElem (by omega)
    rw [kindAt_eq_ok hk, lineIs_of_getElem? hk, isFilled, ← beq_blank]
    rfl
  have hfound := lastLine?_eq_lastFilled hm hle hlt
  rw [lastLine?] at hfound
  rw [lastFilledAt, findM?_eq_ok htest, hfound]
  rfl

/-- A line that is not blank adds to the headers what its kind says. -/
lemma headersAt_succ_of_ne {kind : LineKind} (hk : kinds[n]? = some kind) (h : kind ≠ .blank)
    (front : List LineKind) (count : Nat) :
    headersAt kinds (.ofKinds front) n (count + 1) =
      headersAt kinds (.ofKinds (front ++ [kind])) (n + 1) count := by
  rw [headersAt, kindAt_eq_ok hk, Headers.ofKinds, Headers.ofKinds, List.foldl_append]
  cases kind with
  | blank => exact absurd rfl h
  | separator | method | comment | header | text => rfl

/-- The headers of some lines are those of their kinds up to the first blank one.

**Proof sketch.** Induction on the number of lines. A blank line ends the headers and is the first
one that a search finds; any other line adds what its kind says, and the search goes on behind it.
-/
lemma headersAt_eq_ok {count : Nat} (hle : n + count ≤ kinds.length) (front : List LineKind) :
    headersAt kinds (.ofKinds front) n count =
      .ok (.ofKinds (front ++ (kinds.extract n (n + count)).takeWhile (· != .blank)),
        (firstLine? kinds isBlank n (n + count)).map (· + 1)) := by
  induction count generalizing n front with
  | zero => simp [headersAt, firstLine?, pure, Except.pure]
  | succ count ih =>
    have hlt : n < kinds.length := by omega
    have hk : kinds[n]? = some kinds[n] := List.getElem?_eq_getElem hlt
    have hcut : kinds.extract n (n + (count + 1)) =
        kinds[n] :: kinds.extract (n + 1) (n + 1 + count) := by
      rw [List.extract_eq_take_drop, List.extract_eq_take_drop, List.drop_eq_getElem_cons hlt,
        show n + (count + 1) - n = count + 1 by omega,
        show n + 1 + count - (n + 1) = count by omega, List.take_succ_cons]
    rw [firstLine?_of_lt (by omega), lineIs_of_getElem? hk, hcut]
    by_cases hb : kinds[n] = .blank
    · rw [headersAt, kindAt_eq_ok hk, hb]
      simp [isBlank, bind, Except.bind, pure, Except.pure]
    · have hnot : ¬ kinds[n].isBlank := fun h => hb (isBlank_iff.1 h)
      rw [headersAt_succ_of_ne hk hb, ih (by omega), List.append_assoc, List.singleton_append,
        List.takeWhile_cons_of_pos (by simpa using hb), if_neg hnot,
        show n + (count + 1) = n + 1 + count by omega]

/-- The body of a block is read if the block ends in the document, behind the blank line that opens
the body. -/
lemma bodyAt_eq_ok (hlast : last < lines.length)
    (hgap : ∀ gap, firstLine? kinds isBlank (m + 1) (last + 1) = some gap → gap < last) :
    bodyAt lines last ((firstLine? kinds isBlank (m + 1) (last + 1)).map (· + 1)) =
      .ok (Block.bodyIn lines kinds m last) := by
  rw [Block.bodyIn, beq_blank, findIdx?_extract]
  cases hfirst : firstLine? kinds isBlank (m + 1) (last + 1) with
  | none => rfl
  | some gap =>
    have hle := (firstLine?_eq_some_iff.1 hfirst).1
    have hlt : ¬ last < gap + 1 := Nat.not_lt.2 (hgap gap hfirst)
    rw [Option.map_some, Option.map_some, bodyAt, if_neg hlt, if_pos hlast]
    simp only [show m + (gap - (m + 1)) + 2 = gap + 1 by omega]
    rfl

/-- The block of a region ends in the region with a line that is not blank, so that a blank line
behind the method line stands before that end. -/
lemma IsRegion.lastFilled_spec (h : IsRegion kinds r) (hm : r.methodLine = some m) :
    let last := lastFilled kinds m r.last
    m ≤ last ∧ last ≤ r.last ∧ lineIs kinds isFilled last ∧
      ∀ gap, firstLine? kinds isBlank (m + 1) (last + 1) = some gap → gap < last := by
  intro last
  have hend := h.spanEnd?_eq hm
  rw [spanEnd?, h.nextAnchor_eq hm] at hend
  obtain ⟨hle, hlt, hfilled, -⟩ := lastLine?_eq_some_iff.1 hend
  refine ⟨hle, Nat.lt_succ_iff.1 hlt, hfilled, fun gap hgap => ?_⟩
  rw [firstLine?_succ_of_not (lineIs_isFilled_iff.1 hfilled).2] at hgap
  exact (firstLine?_eq_some_iff.1 hgap).2.1

/-- **The block of a region** is read without a fault.

**Proof sketch.** The method line and the last line of the region are lines of the document. The
search for the end stops at the method line at the latest, which is not blank; and a blank line that
opens a body stands before the end, which is not blank either. -/
theorem IsRegion.readBlock_eq_ok (h : IsRegion kinds r) (hlength : lines.length = kinds.length) :
    r.readBlock lines kinds = .ok (Block.ofRegion? lines kinds r) := by
  cases hm : r.methodLine with
  | none => simp [Region.readBlock, Block.ofRegion?, hm, pure, Except.pure]
  | some m =>
    obtain ⟨-, hlt, hmethod⟩ := (h.methodLine_iff m).1 hm
    obtain ⟨verb, url, hk⟩ := lineIs_isMethod_iff.1 hmethod
    obtain ⟨hle, -, hfilled, hgap⟩ := h.lastFilled_spec hm
    have hfound : lastFilledAt kinds m r.last = .ok (lastFilled kinds m r.last) :=
      lastFilledAt_eq_ok (h.isFilled_methodLine hm) (Nat.lt_succ_iff.1 hlt) h.stop_le
    obtain ⟨last, hlast⟩ : ∃ last, lastFilled kinds m r.last = last := ⟨_, rfl⟩
    rw [hlast] at hle hfilled hgap hfound
    have hstop : m + 1 + (last - m) = last + 1 := by omega
    have hheaders : headersAt kinds .empty (m + 1) (last - m) =
        .ok (Block.headersIn kinds m last,
          (firstLine? kinds isBlank (m + 1) (last + 1)).map (· + 1)) := by
      rw [Block.headersIn, ← hstop]
      exact headersAt_eq_ok (hstop ▸ lt_length_of_lineIs hfilled) []
    have hbody := bodyAt_eq_ok (hlength ▸ lt_length_of_lineIs hfilled) hgap
    rw [Region.readBlock, hm, Block.ofRegion?_of_methodLine hm hk, hlast]
    simp only [kindAt_eq_ok hk, hfound, hheaders, hbody, bind, Except.bind]
    rfl

/-- The reading of a stretch of lines that is no region may stop. -/
example :
    Region.readBlock ["GET /a", ""] [.method .get "/a", .blank] ⟨0, some 0, 2⟩ =
      .error (.noLine 2) :=
  rfl

/-! ### Whole documents -/

/-- **The regions of a document** tile its lines from the first anchor to the last line, and there
is none if there is no anchor. A separator stands only at the start of a region, and the region's
method line is the one method line in it. The block of the region ends in it with a line that is not
blank, and its body starts there at the latest. So line numbers are enough to read the document: to
close a region never asks for a number before the first one, and to read a block asks for lines of
the document alone, finds the end, and gives a block for each region with a method line.

**Proof sketch.** An open region starts before the line that is looked at, which every way to treat
a line keeps (`Scan.step_eq_ok`). What the regions are by the kinds of their lines
(`isRegion_of_mem_regions`) keeps the numbers within the document (`IsRegion.readBlock_eq_ok`). -/
theorem regions_tile_without_fault (kinds : List LineKind) :
    Tiles kinds.length (kinds.findIdx isAnchor) (regions kinds) ∧
      (regions kinds = [] ↔ ∀ kind ∈ kinds, ¬ kind.isAnchor) ∧
      (∀ r ∈ regions kinds,
        r.start ≤ r.last ∧ r.last < kinds.length ∧
        (∀ i, r.start ≤ i → i ≤ r.last → lineIs kinds isSeparator i → i = r.start) ∧
        (∀ i, r.methodLine = some i ↔ r.start ≤ i ∧ i ≤ r.last ∧ lineIs kinds isMethod i) ∧
        ∀ m, r.methodLine = some m →
          let last := lastFilled kinds m r.last
          m ≤ last ∧ last ≤ r.last ∧ lineIs kinds isFilled last ∧
            ∀ gap, firstLine? kinds isBlank (m + 1) (last + 1) = some gap → gap + 1 ≤ last) ∧
      readRegions kinds = .ok (regions kinds) ∧
      ∀ lines : List String, lines.length = kinds.length → ∀ r ∈ regions kinds,
        r.readBlock lines kinds = .ok (Block.ofRegion? lines kinds r) ∧
        (Block.ofRegion? lines kinds r).isSome = r.methodLine.isSome := by
  refine ⟨tiles_regions, regions_eq_nil_iff, fun r hr => ?_, readRegions_eq_ok kinds,
    fun lines hlength r hr => ⟨?_, ?_⟩⟩
  · have hregion := isRegion_of_mem_regions hr
    refine ⟨Nat.lt_succ_iff.1 hregion.start_lt, hregion.stop_le, fun i h₁ h₂ => ?_, fun i => ?_,
      fun m hm => hregion.lastFilled_spec hm⟩
    · exact hregion.eq_start_of_separator i h₁ (Nat.lt_succ_iff.2 h₂)
    · rw [hregion.methodLine_iff i, Nat.lt_succ_iff]
  · exact (isRegion_of_mem_regions hr).readBlock_eq_ok hlength
  · have hmap : (Block.ofRegion? lines kinds r).map Block.methodLine = r.methodLine :=
      Block.map_methodLine_ofRegion? (isRegion_of_mem_regions hr)
    rw [← hmap, Option.isSome_map]

/-- A separator that another one follows is a region of its own, and blank lines at the end of a
region belong to no block. -/
theorem regions_tile_without_fault_of_two_separators :
    let lines := ["note", "### a", "### b", "# c", "GET /a", "A: 1", "", "one", "", "PUT /b", " "]
    let kinds := lines.map LineKind.ofLine
    let r : Region := ⟨2, some 4, 8⟩
    regions kinds = [⟨1, none, 1⟩, r, ⟨9, some 9, 10⟩] ∧ lines.length = kinds.length ∧
      Tiles 11 1 [⟨1, none, 1⟩, r, ⟨9, some 9, 10⟩] ∧
      6 + 1 ≤ lastFilled kinds 4 r.last ∧ lastFilled kinds 4 r.last ≤ r.last ∧
      r.readBlock lines kinds = .ok (some ⟨.get, "/a", ⟨[⟨"A", "1"⟩]⟩, "one", 2, 7, 4⟩) := by
  intro lines kinds r
  have hregions : regions kinds = [⟨1, none, 1⟩, r, ⟨9, some 9, 10⟩] := by decide +kernel
  have hlength : lines.length = kinds.length := by decide +kernel
  obtain ⟨htiles, -, hspec, -, hread⟩ := regions_tile_without_fault kinds
  have hr : r ∈ regions kinds := by
    rw [hregions]
    decide
  obtain ⟨-, -, -, -, hend⟩ := hspec r hr
  obtain ⟨-, hlast, -, hgap⟩ := hend 4 rfl
  obtain ⟨hblock, -⟩ := hread lines hlength r hr
  refine ⟨hregions, hlength, ?_, hgap 6 (by decide +kernel), hlast, ?_⟩
  · rwa [hregions, show kinds.length = 11 by decide +kernel,
      show kinds.findIdx isAnchor = 1 by decide +kernel] at htiles
  · rw [hblock]
    exact congrArg Except.ok (by decide +kernel)

/-- The blocks of a document, in order. -/
def readBlocks (document : String) : Except LineFault (List Block) := do
  let lines := Text.lines document
  let kinds := lines.map LineKind.ofLine
  let rs ← readRegions kinds
  let found ← rs.mapM (Region.readBlock lines kinds)
  pure (found.filterMap id)

/-- A reading of each region that never stops is the list of its answers. -/
lemma mapM_eq_ok {p : Region → Except LineFault (Option Block)} {q : Region → Option Block}
    {rs : List Region} (h : ∀ r ∈ rs, p r = .ok (q r)) : rs.mapM p = .ok (rs.map q) := by
  induction rs with
  | nil => rfl
  | cons r rs ih =>
    rw [List.mapM_cons, h r List.mem_cons_self, ih fun r' hr => h r' (List.mem_cons_of_mem r hr)]
    rfl

/-- **The blocks of a document** are read by line numbers without a fault.

**Proof sketch.** The regions are read as they are scanned (`readRegions_eq_ok`), and the block of
each region is read without a fault, since a region lies inside the document. -/
theorem readBlocks_eq_ok (document : String) : readBlocks document = .ok (blocks document) := by
  have hread : ∀ r ∈ regions (lineKinds document),
      Region.readBlock (Text.lines document) (lineKinds document) r =
        .ok (Block.ofRegion? (Text.lines document) (lineKinds document) r) := fun r hr =>
    (isRegion_of_mem_regions hr).readBlock_eq_ok (lines_length_eq document).symm
  rw [lineKinds] at hread
  simp only [readBlocks, readRegions_eq_ok, bind, Except.bind, mapM_eq_ok hread, pure, Except.pure,
    List.filterMap_map, Function.id_comp]
  rfl

end RequestRunner
