import RequestRunner.Proofs.Program.Visits

/-!
# Runs one after the other

What is stored after any number of runs is what the last run that stored a file has stored. In between
others may do as they like, as long as they leave the data directory alone.

## Main definitions

* `FileTree.Spares` — a directory has been left alone, but for the log.
* `Session` — runs with the same configuration, one after the other.

## Main results

* `Session.stored?_eq` — what is stored after a session.
* `Session.listed_eq` — the number that a run tells and the requests that a later one lists.
* `sessions_keep_stored_document` — all of it.
-/

namespace RequestRunner

open FileTree
open scoped List

/-- The directory at `place` has been left alone, with all that is in it but the log, whose lines are
not told. -/
def FileTree.Spares (place : Location) (t t' : FileTree) : Prop :=
  ∀ p, place <:+ p → p ≠ (programName ++ ".log") :: place → t'.node? p = t.node? p

/-- Runs of the program, one after the other: wherever they are called, those that read a configuration
read the same one, and the data directory is at `place`. -/
inductive Session (surroundings : Surroundings) (replies : OutgoingRequest → Reply → Prop)
    (config : Config) (place : Location) : FileTree → List Visit → FileTree → Prop where
  | nil (t : FileTree) : Session surroundings replies config place t [] t
  | /-- Something else happens. -/
    others {t t' t'' : FileTree} {visits : List Visit} (h : t.Spares place t')
      (rest : Session surroundings replies config place t' visits t'') :
      Session surroundings replies config place t visits t''
  | visit {t t' : FileTree} {v : Visit} {visits : List Visit} (hgoes : v.Goes surroundings replies t)
      (hconfig : ∀ c, configOf v.current surroundings t v.arguments = some c → c = config)
      (hplace : Path.place v.current (Storage.ofConfig surroundings config).directory = place)
      (rest : Session surroundings replies config place v.left visits t') :
      Session surroundings replies config place t (v :: visits) t'

variable {surroundings : Surroundings} {replies : OutgoingRequest → Reply → Prop} {config : Config}
  {place current current' : Location} {t t' : FileTree} {v w : Visit} {visits : List Visit}
  {s : Storage} {path path' : Option String} {file : String}

/-! ### The stored document -/

/-- Whoever leaves the data directory alone leaves the stored document alone. -/
lemma stored?_eq_of_spares (h : t.Spares (Path.place current s.directory) t') :
    s.stored? current t' = s.stored? current t := by
  unfold Spares at h
  have hsuffix : Path.place current s.directory <:+ Path.place current s.document := by
    rw [Storage.place_document]
    exact List.suffix_cons _ _
  rw [← Storage.place_log] at h
  rw [Storage.stored?, Storage.stored?, file?, file?, h _ hsuffix Storage.place_document_ne_log]

/-- Wherever runs are called, they have the same stored document if they have the same directory. -/
lemma stored?_congr (h : Path.place current s.directory = Path.place current' s.directory) :
    s.stored? current t = s.stored? current' t := by
  rw [Storage.stored?, Storage.stored?, Storage.place_document, Storage.place_document, h]

/-- **What is stored after a session** is what the last run that stored a file has stored, and what was
stored before the session if no run has.

**Proof sketch.** Induction on the session. A run leaves what it has stored, and else what it found
(`Visit.Goes.stored?_left`), and others leave the data directory alone. -/
theorem Session.stored?_eq (h : Session surroundings replies config place t visits t')
    (hcurrent : Path.place current (Storage.ofConfig surroundings config).directory = place) :
    let storage := Storage.ofConfig surroundings config
    storage.stored? current t' =
      (visits.filterMap Visit.imported?).getLast?.or (storage.stored? current t) := by
  intro storage
  induction h with
  | nil => rfl
  | others hspares _ ih =>
    rw [ih]
    congr 1
    exact stored?_eq_of_spares (hcurrent ▸ hspares)
  | @visit t t' v visits hgoes hconfig hplace _ ih =>
    have hsame : ∀ t, storage.stored? current t = storage.stored? v.current t :=
      fun t => stored?_congr (hcurrent.trans hplace.symm)
    rw [ih, hsame v.left, hgoes.stored?_left hconfig, ← hsame t]
    cases himported : v.imported? with
    | none => rw [List.filterMap_cons_none himported, Option.none_or]
    | some bytes =>
      rw [List.filterMap_cons_some himported, List.getLast?_cons, Option.some_or, Option.some_or]
      cases (visits.filterMap Visit.imported?).getLast? <;> rfl

/-! ### Listings -/

/-- **The number that a run tells which stores a file** is that of the requests which the next
listing shows, whatever else is done in between, as long as no other file is stored.

**Proof sketch.** The run has left the text of the file as the stored document
(`Visit.Goes.store_cases`), the session in between keeps it (`Session.stored?_eq`), and the listing
is that of the stored text (`Visit.Goes.list_cases`). -/
theorem Session.listed_eq
    (hv : v.Goes surroundings replies t)
    (hvconfig : ∀ c, configOf v.current surroundings t v.arguments = some c → c = config)
    (hvplace : Path.place v.current (Storage.ofConfig surroundings config).directory = place)
    (hvarguments : Invocation.ofArguments v.arguments = .ok ⟨path, .store file⟩)
    (hcode : v.output.code = 0)
    (h : Session surroundings replies config place v.left visits t')
    (hnone : ∀ u ∈ visits, u.imported? = none)
    (hw : w.Goes surroundings replies t')
    (hwconfig : configOf w.current surroundings t' w.arguments = some config)
    (hwplace : Path.place w.current (Storage.ofConfig surroundings config).directory = place)
    (hwarguments : Invocation.ofArguments w.arguments = .ok ⟨path', .list none⟩) :
    let storage := Storage.ofConfig surroundings config
    ∃ text, FileSystem.textOf (v.left.read v.current file) = .ok text ∧
      v.output = (Ending.prints [storage.imported text]).output ∧
      storage.Opened v.current v.left ∧
      ((w.output.code ≠ 0 ∧ ¬ storage.Opened w.current t') ∨
        w.output = (Ending.ofBlocks (blocks text)).output) := by
  intro storage
  rcases hv.store_cases hvconfig hvarguments with
    ⟨hfailed, -⟩ | ⟨text, houtput, hread, hstored, hlog, -⟩
  · exact absurd hcode hfailed
  · refine ⟨text, textOf_eq_ok_iff.2 hread, houtput, hlog, ?_⟩
    have hkept : storage.stored? w.current t' = some (Text.encode text.toList) := by
      rw [h.stored?_eq hwplace, List.filterMap_eq_nil_iff.2 hnone, List.getLast?_nil, Option.none_or,
        stored?_congr (hwplace.trans hvplace.symm), hstored]
    rw [← Storage.storedText_eq_of_stored? hkept]
    exact hw.list_cases hwarguments hwconfig

/-! ### All sessions -/

/-- **What is stored is the last file that was stored.** The first part says that a run of the program
goes as runs may go; the others hold however runs go.

What any run leaves as the stored document is the file that it stored, and else what it found; so after
any session the stored document is what the last run that stored a file has stored, and if none has,
what it was before. A run whose arguments are rejected, or its configuration, leaves all files as they
are and hands nothing over. A run that is to store a file fails if the file cannot be read as a text; if
it does not fail, it stores what the file held before, and this is a text.

An action that is about the stored document may as well be about a file with its text, the empty text if
nothing is stored that is one: the runs leave the same files, hand over the same requests, print the
same up to times and the order of reports, and have the same exit code.

A run that has stored a file tells how many requests it has, and a later listing of the stored document
shows as many, as long as no other file was stored. The listing fails only if the log cannot be read,
which the first of the two runs has left readable.

**Proof sketch.** `Visit.Goes.stored?_left` tells of one run, and `Session.stored?_eq` of a session, by
induction. An action meets the same text on both ways, so that the same errand is left
(`run_prepare_withFile`), and an errand ends in one way (`Errand.Ends.alike`). -/
theorem sessions_keep_stored_document (surroundings : Surroundings) (config : Config) :
    let storage := Storage.ofConfig surroundings config
    let reads := fun (v : Visit) (t : FileTree) =>
      ∀ c, configOf v.current surroundings t v.arguments = some c → c = config
    let directory := fun (v : Visit) => Path.place v.current storage.directory
    (∀ replies respond, (∀ request, replies request (respond request)) →
      ∀ current clock arguments t,
        (visited current surroundings respond clock arguments t).Goes surroundings replies t) ∧
    (∀ replies t (v : Visit), v.Goes surroundings replies t →
      (reads v t → storage.stored? v.current v.left =
        v.imported?.or (storage.stored? v.current t)) ∧
      (configOf v.current surroundings t v.arguments = none → v.left = t ∧ v.sent = []) ∧
      ∀ path file, Invocation.ofArguments v.arguments = .ok ⟨path, .store file⟩ →
        ((∀ text, FileSystem.textOf (v.left.read v.current file) ≠ .ok text) → v.output.code ≠ 0) ∧
        ∀ bytes, t.read v.current file = .ok bytes → v.output.code = 0 →
          v.imported? = some bytes ∧ (Text.decode? bytes).isSome) ∧
    (∀ replies current t visits t',
      Session surroundings replies config (Path.place current storage.directory) t visits t' →
      storage.stored? current t' =
        (visits.filterMap Visit.imported?).getLast?.or (storage.stored? current t)) ∧
    (∀ (outcome : OutgoingRequest → Outcome) t (v v' : Visit) path action file,
      let replies := fun request (reply : Reply) => reply.outcome = outcome request
      v.Goes surroundings replies t → v'.Goes surroundings replies t → reads v t →
      v'.current = v.current → action.ReadsStored →
      Invocation.ofArguments v.arguments = .ok ⟨path, action⟩ →
      Invocation.ofArguments v'.arguments = .ok ⟨path, action.withFile file⟩ →
      FileSystem.textOf (t.read v.current file) = .ok (storage.storedText v.current t) →
      v.left = v'.left ∧ v.sent ~ v'.sent ∧ v.output.Alike v'.output ∧
        v.output.code = v'.output.code) ∧
    ∀ replies t (v w : Visit) visits t' path path' file,
      v.Goes surroundings replies t → reads v t →
      Invocation.ofArguments v.arguments = .ok ⟨path, .store file⟩ → v.output.code = 0 →
      Session surroundings replies config (directory v) v.left visits t' →
      (∀ u ∈ visits, u.imported? = none) →
      w.Goes surroundings replies t' → directory w = directory v →
      configOf w.current surroundings t' w.arguments = some config →
      Invocation.ofArguments w.arguments = .ok ⟨path', .list none⟩ →
      ∃ text, FileSystem.textOf (v.left.read v.current file) = .ok text ∧
        storage.Opened v.current v.left ∧
        v.output = ⟨0, "Imported " ++ Text.decimal (blocks text).length ++ " request(s) into " ++
          storage.document ++ "\n", ""⟩ ∧
        ((w.output.code ≠ 0 ∧ ¬ storage.Opened w.current t') ∨
          w.output = (Ending.ofBlocks (blocks text)).output ∧
            ((Text.lines w.output.stdout).filterMap shownRange?).length = (blocks text).length) := by
  intro storage reads directory
  refine ⟨fun replies respond hreplies current clock arguments t =>
      goes_visited hreplies current surroundings clock arguments t,
    fun replies t v hv => ⟨fun hconfig => hv.stored?_left hconfig,
      fun hnone => hv.left_eq_of_configOf_eq_none hnone, fun path file harguments => ?_⟩,
    fun replies current t visits t' h => h.stored?_eq rfl, ?_, ?_⟩
  · have hconfig : ∀ c, configOf v.current surroundings t v.arguments = some c →
        c = (configOf v.current surroundings t v.arguments).getD {} := fun c hc => by
      rw [hc, Option.getD_some]
    rcases hv.store_cases hconfig harguments with ⟨hcode, -⟩ | ⟨text, -, hread, -, -, hbefore⟩
    · exact ⟨fun _ => hcode, fun _ _ h => absurd h hcode⟩
    · refine ⟨fun hunreadable => absurd (textOf_eq_ok_iff.2 hread) (hunreadable text),
        fun bytes hbytes hcode => ?_⟩
      rw [Visit.imported?_of_store harguments hcode hread, hbefore bytes hbytes, Text.decode?_encode]
      exact ⟨rfl, rfl⟩
  · intro outcome t v v' path action file replies hv hv' hconfig hcurrent haction harguments harguments'
      hfile
    obtain ⟨hleft, hsent, houtput⟩ := hv.alike_withFile hv' hcurrent haction harguments harguments'
      fun c hc => by rw [hconfig c hc, hfile]
    exact ⟨hleft, hsent, houtput, houtput.code_eq.1⟩
  · intro replies t v w visits t' path path' file hv hconfig hvarguments hcode h hnone hw hplace hwconfig
      hwarguments
    obtain ⟨text, htext, houtput, hlog, hlisted⟩ := Session.listed_eq hv hconfig rfl hvarguments hcode h
      hnone hw hwconfig hplace hwarguments
    refine ⟨text, htext, hlog, ?_, hlisted.imp_right fun hlisted => ⟨hlisted, ?_⟩⟩
    · rw [houtput, Storage.output_imported]
    · rw [hlisted, shownRanges_ofBlocks, List.length_map]

/-- A file is stored, another one is missing, and then the stored document is listed. -/
theorem sessions_keep_stored_document_of_missing_file :
    let surroundings : Surroundings := ⟨none, some "/c"⟩
    let storage := Storage.ofConfig surroundings {}
    let bytes := Text.encode "GET /a\n\nGET /b\n".toList
    let t := FileTree.empty.put [] "a.http" (.file bytes) rfl (by decide)
    let run := visited [] surroundings (fun _ => ⟨.error (.failed "refused"), 0⟩) fun _ => ⟨0, 0⟩
    let first := run ["import", "/a.http"] t
    let second := run ["import", "/b.http"] first.left
    let third := run ["list"] second.left
    first.output.code = 0 ∧ second.output.code = 1 ∧ third.output.code = 0 ∧
      storage.stored? [] third.left = some bytes ∧
      ((Text.lines third.output.stdout).filterMap shownRange?).length = 2 := by
  intro surroundings storage bytes t run first second third
  obtain ⟨hgoes, hsingle, hsession, -, hlisted⟩ := sessions_keep_stored_document surroundings {}
  have hrun : ∀ arguments t, (run arguments t).Goes surroundings (fun _ _ => True) t :=
    fun arguments t => hgoes _ _ (fun _ => trivial) _ _ arguments t
  have hconfigs : configOf [] surroundings t ["import", "/a.http"] = some {} ∧
      configOf [] surroundings first.left ["import", "/b.http"] = some {} ∧
      configOf [] surroundings second.left ["list"] = some {} := by
    decide +kernel
  have hcodes : first.output.code = 0 ∧ second.output.code = 1 ∧ third.output.code = 0 := by
    decide +kernel
  have hreads : ∀ {found : Option Config}, found = some {} → ∀ c, found = some c → c = {} :=
    fun hfound c hc => Option.some.inj (hc.symm.trans hfound)
  have hread : t.read [] "/a.http" = .ok bytes := by decide +kernel
  have himported : first.imported? = some bytes :=
    (((hsingle _ _ _ (hrun _ _)).2.2 none "/a.http" rfl).2 bytes hread hcodes.1).1
  have hmissing : second.imported? = none := Visit.imported?_of_code_ne_zero (by rw [hcodes.2.1]; decide)
  have hlist : third.imported? = none :=
    Visit.imported?_of_ne_store fun _ _ h => by cases Except.ok.inj h
  refine ⟨hcodes.1, hcodes.2.1, hcodes.2.2, ?_, ?_⟩
  · have hstored := hsession (fun _ _ => True) [] t [first, second, third] third.left
      (.visit (hrun _ _) (hreads hconfigs.1) rfl (.visit (hrun _ _) (hreads hconfigs.2.1) rfl
        (.visit (hrun _ _) (hreads hconfigs.2.2) rfl (.nil _))))
    rw [List.filterMap_cons_some himported, List.filterMap_cons_none hmissing,
      List.filterMap_cons_none hlist] at hstored
    exact hstored
  · obtain ⟨text, htext, -, -, hcase⟩ := hlisted (fun _ _ => True) t first third [second] second.left
      none none "/a.http" (hrun _ _) (hreads hconfigs.1) rfl hcodes.1
      (.visit (hrun _ _) (hreads hconfigs.2.1) rfl (.nil _))
      (fun u hu => by rw [List.mem_singleton.1 hu, hmissing]) (hrun _ _) rfl hconfigs.2.2 rfl
    rcases hcase with ⟨hfailed, -⟩ | ⟨-, hshown⟩
    · exact absurd hcodes.2.2 hfailed
    · have hafter : FileSystem.textOf (first.left.read [] "/a.http") = .ok "GET /a\n\nGET /b\n" := by
        decide +kernel
      obtain rfl := Except.ok.inj (hafter.symm.trans htext)
      rw [hshown]
      decide +kernel

end RequestRunner
