import RequestRunner.Program.Run
import RequestRunner.Proofs.Document.Lookup
import RequestRunner.Proofs.Program.Endings

/-!
# Runs at a line

What is listed of a document says which request a run at a line executes: the one whose range holds
the line, and none if no range does.

## Main definitions

* `ranAt` — how a run at a line ends, and the requests that it hands over.

## Main results

* `ranAt_of_covers`, `ranAt_of_not_covers` — runs inside and outside the blocks.
* `listing_selects_runs` — listing and runs agree.
-/

namespace RequestRunner

/-- How a run at a line ends if each request gets a fixed reply, and the requests handed over. -/
def ranAt (reply : OutgoingRequest → Reply) (document : String) (line : Nat)
    (json showHeaders : Bool) : Ending × List OutgoingRequest :=
  Id.run ((runAt (.recording reply) document line json showHeaders).run [])

variable {document : String} {reply : OutgoingRequest → Reply} {line : Nat}
  {json showHeaders : Bool} {b : Block} {bs : List Block}

/-! ### Single runs -/

/-- A run at a line hands over the request of the block at the line, and its result is what the
reply gives. -/
lemma ranAt_of_blockAt? (h : blockAt? (blocks document) (line - 1) = some b) :
    ranAt reply document line json showHeaders =
      (.ofResult json showHeaders (.ofReply (reply (.ofBlock b))), [.ofBlock b]) := by
  rw [ranAt, runAt, h]
  rfl

/-- Without a block at the line a run hands nothing over. -/
lemma ranAt_of_blockAt?_eq_none (h : blockAt? (blocks document) (line - 1) = none) :
    ranAt reply document line json showHeaders = (.fails (.noRequest line), []) := by
  rw [ranAt, runAt, h]
  rfl

/-- The lines of a block, counted from one, are those at which it runs. -/
lemma ranAt_of_covers (hb : b ∈ blocks document) (h₁ : b.startLine + 1 ≤ line)
    (h₂ : line ≤ b.endLine + 1) :
    ranAt reply document line json showHeaders =
      (.ofResult json showHeaders (.ofReply (reply (.ofBlock b))), [.ofBlock b]) := by
  have hcovers : b.covers (line - 1) := Block.covers_iff.2 (by omega)
  exact ranAt_of_blockAt? ((separated_blocks document).blockAt?_eq_some_iff.2 ⟨hb, hcovers⟩)

/-- At a line of no block a run hands nothing over and says so. -/
lemma ranAt_of_not_covers (hline : 1 ≤ line)
    (h : ∀ b ∈ blocks document, ¬ (b.startLine + 1 ≤ line ∧ line ≤ b.endLine + 1)) :
    ranAt reply document line json showHeaders = (.fails (.noRequest line), []) := by
  refine ranAt_of_blockAt?_eq_none (List.find?_eq_none.2 fun b hb hcovers => h b hb ?_)
  have := Block.covers_iff.1 hcovers
  omega

/-! ### The listed runs -/

/-- **Listing and runs agree.** A listing has a line for each block, in order, or says that there is
none. The ranges that it shows lie inside the document, one behind the other. A run at a line in the
range that is shown for a block hands over the request of this block alone, and succeeds exactly if
the reply is a response, whatever its status; a run at any other line hands over nothing and says
that no request is there.

**Proof sketch.** The ranges that are read off the listing are those of the blocks
(`shownRanges_ofBlocks`), since no address goes over a line's end. Of the blocks only one covers a
line (`separated_blocks`), and the lookup finds it. -/
theorem listing_selects_runs (document : String) (reply : OutgoingRequest → Reply)
    (json showHeaders : Bool) :
    let bs := blocks document
    let listed := (Ending.ofBlocks bs).output
    let shown := (Text.lines listed.stdout).filterMap shownRange?
    let ran := fun line => ranAt reply document line json showHeaders
    listed.code = 0 ∧
      Text.lines listed.stdout =
        (if bs = [] then ["No requests found"] else bs.mapIdx fun i b => b.listing i) ∧
      shown.length = bs.length ∧
      shown.Pairwise (fun range range' => range.2 < range'.1) ∧
      (∀ (i first last : Nat), shown[i]? = some (first, last) →
        1 ≤ first ∧ first ≤ last ∧ last ≤ (Text.lines document).length ∧
        ∃ b, bs[i]? = some b ∧ ∀ line, first ≤ line → line ≤ last →
          (ran line).2 = [.ofBlock b] ∧
          (ran line).1 = .ofResult json showHeaders (.ofReply (reply (.ofBlock b))) ∧
          ((ran line).1.output.code = 0 ↔
            ∃ response, (reply (.ofBlock b)).outcome = .ok response)) ∧
      ∀ line, 1 ≤ line → (∀ range ∈ shown, ¬ (range.1 ≤ line ∧ line ≤ range.2)) →
        (ran line).2 = [] ∧
        (ran line).1.output =
          ⟨1, "", "Error: No request at line " ++ Text.decimal line ++ "\n"⟩ := by
  intro bs listed shown ran
  have hshown : shown = bs.map fun b => (b.startLine + 1, b.endLine + 1) :=
    shownRanges_ofBlocks document
  refine ⟨rfl, lines_ofBlocks document, by rw [hshown, List.length_map], ?_, ?_, ?_⟩
  · rw [hshown, List.pairwise_map]
    refine List.Pairwise.imp_of_mem ?_ (pairwise_nextAnchor_le_startLine document)
    intro b c hb _ hle
    obtain ⟨-, hlt, -⟩ := (fits_of_mem_blocks hb).endLine_spec
    show b.endLine + 1 < c.startLine + 1
    omega
  · intro i first last hi
    rw [hshown, List.getElem?_map, Option.map_eq_some_iff] at hi
    obtain ⟨b, hb, hrange⟩ := hi
    obtain ⟨rfl, rfl⟩ := Prod.mk.inj hrange
    have hmem : b ∈ blocks document := List.mem_of_getElem? hb
    have hfits := fits_of_mem_blocks hmem
    obtain ⟨hle, -, hfilled, -⟩ := hfits.endLine_spec
    have hlast := lt_length_of_lineIs hfilled
    rw [lines_length_eq] at hlast
    have hstart := hfits.startLine_le
    refine ⟨Nat.succ_pos _, by omega, hlast, b, hb, fun line h₁ h₂ => ?_⟩
    have hran : ran line =
        (.ofResult json showHeaders (.ofReply (reply (.ofBlock b))), [.ofBlock b]) :=
      ranAt_of_covers hmem h₁ h₂
    rw [hran]
    exact ⟨rfl, rfl, Ending.code_eq_zero_iff.trans
      (Ending.ofResult_failure_eq_none_iff.trans Reply.isError_eq_false_iff)⟩
  · intro line hline hnone
    have hran : ran line = (.fails (.noRequest line), []) := by
      refine ranAt_of_not_covers hline fun b hb hcovers => ?_
      rw [hshown, List.forall_mem_map] at hnone
      exact hnone b hb hcovers
    rw [hran]
    refine ⟨rfl, ?_⟩
    rw [← Failure.account_noRequest]
    rfl

end RequestRunner
