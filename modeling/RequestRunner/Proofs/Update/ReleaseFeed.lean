import RequestRunner.Proofs.Execution.Requests
import RequestRunner.Proofs.Json.Skipping
import RequestRunner.Update

/-!
# What the release feed tells

For a version under development the feed is not asked. For any other one it is asked once, and what
is known afterwards is either all that the release says or just the current version. A release is
found in an object with its two members wherever they stand among others, whatever these are.

## Main definitions

* `Release.StandsIn` — the texts of objects that have the members of a release.
* `UpdateInfo.Tells` — what is to be known after a reply.

## Main results

* `Release.ofText?_of_standsIn` — the other members make no difference.
* `checkForUpdate_all_or_nothing` — what is sent, and what is known afterwards.
-/

namespace RequestRunner

namespace Release

open Json

/-- Just one of the members has the name, and its value is the string. -/
def HasOnce (ms : List (String × List Char)) (name value : String) : Prop :=
  ∃ cs, StringText value.toList cs ∧ ms.filter (·.1 = name) = [(name, '"' :: (cs ++ ['"']))]

/-- The text is an object with the two members of the release among others. The values of the others
may be anything that is well formed, of any depth. -/
def StandsIn (release : Release) (text : String) : Prop :=
  ∃ gap gap' cs ms, Gap gap ∧ Gap gap' ∧ MembersForm true ms cs ∧
    (∀ m ∈ ms, ∃ depth, Formed LooseString NumberText depth .value m.2) ∧
    HasOnce ms "tag_name" release.tag ∧ HasOnce ms "html_url" release.page ∧
    text.toList = gap ++ '{' :: (cs ++ gap')

/-- What is known of a member before others are read and after: the same if none of them is that
member, or first nothing and then its value. -/
def Becomes (name : String) (ms : List (String × List Char)) (old new : Option String) : Prop :=
  (ms.filter (·.1 = name) = [] ∧ new = old) ∨
    ∃ value, HasOnce ms name value ∧ old = none ∧ new = some value

variable {p q : Option String × Option String} {name value : String} {cs : List Char}
  {ms : List (String × List Char)} {depth : Nat} {old new : Option String}

/-! ### One member -/

/-- The tag is read and kept if none was known. -/
lemma takesMember_tag (hcs : StringText value.toList cs) (hp : p.1 = none) :
    TakesMember (readMember p "tag_name") ('"' :: (cs ++ ['"'])) (some value, p.2) := by
  have hreads := readsMember_readField (reads_readString value) "tag_name"
  have hmember := (hreads.map fun v => (some v, p.2)).takesMember (.string hcs)
  rw [← hp] at hmember
  exact hmember

/-- The page is read and kept if none was known. -/
lemma takesMember_page (hcs : StringText value.toList cs) (hp : p.2 = none) :
    TakesMember (readMember p "html_url") ('"' :: (cs ++ ['"'])) (p.1, some value) := by
  have hreads := readsMember_readField (reads_readString value) "html_url"
  have hmember := (hreads.map fun v => (p.1, some v)).takesMember (.string hcs)
  rw [← hp] at hmember
  exact hmember

/-- A member with another name is skipped. -/
lemma takesMember_other (htag : name ≠ "tag_name") (hpage : name ≠ "html_url")
    (hcs : Formed LooseString NumberText depth .value cs) :
    TakesMember (readMember p name) cs p := by
  intro gap gap' rest hgap hgap' hrest
  have hcolon := readColon_append hgap (gap' ++ (cs ++ rest))
  have hskip := skipValue_of_formed hcs hgap' hrest
  simp only [readMember, if_neg htag, if_neg hpage, hcolon, hskip, bind, Except.bind]

/-! ### All members -/

/-- Without members nothing more is known. -/
lemma becomes_nil (h : Becomes name [] old new) : new = old := by
  rcases h with ⟨-, h⟩ | ⟨value, ⟨cs, -, h⟩, -⟩
  · exact h
  · cases h

/-- The member itself is known from then on. It was not known before, and it does not come again. -/
lemma becomes_cons_self (h : Becomes name ((name, cs) :: ms) old new) :
    ∃ value cs', StringText value.toList cs' ∧ cs = '"' :: (cs' ++ ['"']) ∧ old = none ∧
      Becomes name ms (some value) new := by
  rcases h with ⟨hfilter, -⟩ | ⟨value, ⟨cs', htext, hfilter⟩, hold, hnew⟩
  · simp at hfilter
  · rw [List.filter_cons_of_pos (by simp)] at hfilter
    obtain ⟨hmember, hothers⟩ := List.cons.inj hfilter
    exact ⟨value, cs', htext, congrArg Prod.snd hmember, hold, .inl ⟨hothers, hnew⟩⟩

/-- Another member makes no difference. -/
lemma becomes_cons_other {other : String} (hne : other ≠ name)
    (h : Becomes name ((other, cs) :: ms) old new) : Becomes name ms old new := by
  have hfilter : ((other, cs) :: ms).filter (·.1 = name) = ms.filter (·.1 = name) :=
    List.filter_cons_of_neg (by simpa using hne)
  simpa only [Becomes, HasOnce, hfilter] using h

/-- **The members are gone through** to what they say of the release.

**Proof sketch.** Induction on the members. A member of the release comes while nothing is known of
it, since it comes just once; any other one leaves everything as it is. -/
lemma foldTakes_readMember
    (hforms : ∀ m ∈ ms, ∃ depth, Formed LooseString NumberText depth .value m.2)
    (htag : Becomes "tag_name" ms p.1 q.1) (hpage : Becomes "html_url" ms p.2 q.2) :
    FoldTakes readMember p ms q := by
  induction ms generalizing p with
  | nil =>
    have hpq : p = q := Prod.ext (becomes_nil htag).symm (becomes_nil hpage).symm
    exact hpq ▸ .nil
  | cons m ms ih =>
    obtain ⟨name, cs⟩ := m
    rw [List.forall_mem_cons] at hforms
    obtain ⟨⟨depth, hcs⟩, hforms⟩ := hforms
    by_cases hname : name = "tag_name"
    · subst hname
      obtain ⟨value, cs', htext, rfl, hnone, htag⟩ := becomes_cons_self htag
      have hpage := becomes_cons_other (by decide) hpage
      exact .cons (takesMember_tag htext hnone) (ih hforms htag hpage)
    by_cases hname' : name = "html_url"
    · subst hname'
      obtain ⟨value, cs', htext, rfl, hnone, hpage⟩ := becomes_cons_self hpage
      have htag := becomes_cons_other (by decide) htag
      exact .cons (takesMember_page htext hnone) (ih hforms htag hpage)
    · exact .cons (takesMember_other hname hname' hcs)
        (ih hforms (becomes_cons_other hname htag) (becomes_cons_other hname' hpage))

/-- **A release is read wherever its members stand**, whatever the other ones are.

**Proof sketch.** The members are gone through with nothing known at first and both members known in
the end (`foldTakes_readMember`). Gaps before and behind the object are skipped. -/
theorem ofText?_of_standsIn {release : Release} {text : String} (h : release.StandsIn text) :
    ofText? text = some release := by
  obtain ⟨gap, gap', cs, ms, hgap, hgap', hform, hforms, htag, hpage, htext⟩ := h
  have hfold : FoldTakes readMember (none, none) ms (some release.tag, some release.page) :=
    foldTakes_readMember hforms (.inr ⟨_, htag, rfl, rfl⟩) (.inr ⟨_, hpage, rfl, rfl⟩)
  have hlength : ms.length < (cs ++ gap').length + 1 := by
    have hlt := hform.length_lt
    rw [List.length_append]
    omega
  have hread := foldMembers_form hfold hform hlength gap'
  have hskip := skipGap_append_cons (c := '{') hgap rfl (cs ++ gap')
  have hend : skipGap gap' = [] := by
    have hnone := skipGap_append hgap' []
    rwa [List.append_nil] at hnone
  simp only [ofText?, readAll, htext, Release.read, hskip, hread, require, closeObject_cons, hend,
    bind, Except.bind]
  rfl

end Release

/-- The info says all that the release of a reply says. If the reply is no response with the status
200 and a release in it, the info has just the current version. -/
structure UpdateInfo.Tells (info : UpdateInfo) (current : String) (reply : Reply) : Prop where
  of_release : ∀ response release, reply.outcome = .ok response → response.status = 200 →
    Release.ofText? response.body = some release →
    info = ⟨current, release.tag, isNewer release.tag current, release.page⟩
  of_none : (∀ response, reply.outcome = .ok response → response.status = 200 →
    Release.ofText? response.body = none) → info = ⟨current, "", false, ""⟩

/-- **The info that is made of a reply** tells it. -/
lemma UpdateInfo.tells_ofReply (current : String) (reply : Reply) :
    (ofReply current reply).Tells current reply where
  of_release response release houtcome hstatus hrelease := by
    simp only [ofReply, houtcome, if_pos hstatus, hrelease]
  of_none h := by
    rcases houtcome : reply.outcome with e | response
    · simp only [ofReply, houtcome, bare]
    · by_cases hstatus : response.status = 200
      · simp only [ofReply, houtcome, if_pos hstatus, h response houtcome hstatus, bare]
      · simp only [ofReply, houtcome, if_neg hstatus, bare]

variable {m : Type → Type} [Monad m] [LawfulMonad m]

/-- **The feed is asked once or not at all**, and all that its release says is known afterwards or
nothing of it. For a version under development nothing is sent. Otherwise one request is, and the
info tells its reply, whatever the transport does. A release is found in every object that has its
two members once, whatever the other members are and wherever they stand.

**Proof sketch.** A version under development ends the check before a request is made; otherwise the
check is one call of the transport with an answer made of its reply (`UpdateInfo.tells_ofReply`).
That a release is found is `Release.ofText?_of_standsIn`. -/
theorem checkForUpdate_all_or_nothing (transport : Transport m) (current feed : String) :
    (current = "dev" → ∀ log, (checkForUpdate transport.logged current feed).run log =
      pure (⟨current, "", false, ""⟩, log)) ∧
    (current ≠ "dev" → ∃ (request : OutgoingRequest) (info : Reply → UpdateInfo),
      request.method = "GET" ∧ request.url = feed ∧ request.body = none ∧
      (∀ reply, (info reply).Tells current reply) ∧
      checkForUpdate transport current feed = info <$> transport request ∧
      ∀ log, (checkForUpdate transport.logged current feed).run log =
        (fun reply => (info reply, log ++ [(request, reply)])) <$> transport request) ∧
    ∀ (release : Release) (text : String), release.StandsIn text →
      Release.ofText? text = some release := by
  refine ⟨fun hdev log => ?_, fun hdev => ?_, fun release text => Release.ofText?_of_standsIn⟩
  · simp [checkForUpdate, hdev, developmentVersion, UpdateInfo.bare]
  · have hnot : ¬ current = developmentVersion := hdev
    refine ⟨releaseRequest current feed, .ofReply current, rfl, rfl, rfl,
      UpdateInfo.tells_ofReply current, ?_, fun log => ?_⟩
    · simp [checkForUpdate, hnot]
    · simp [checkForUpdate, hnot, Transport.logged]

/-- A transport that counts its calls is called once. The release is found behind an empty array. -/
theorem checkForUpdate_all_or_nothing_of_counting :
    let body := "\x7b\"a\":[], \"tag_name\":\"v1.10.0\",\"html_url\":\"h\"\x7d"
    let reply : Reply := ⟨.ok ⟨200, ∅, body⟩, 5⟩
    let transport : Transport (StateM Nat) := fun _ => do
      modify (· + 1)
      return reply
    ∃ request, ((checkForUpdate transport.logged "1.9.3" "f").run []).run 0 =
      ((⟨"1.9.3", "v1.10.0", true, "h"⟩, [(request, reply)]), 1) := by
  intro body reply transport
  obtain ⟨-, hasked, hread⟩ := checkForUpdate_all_or_nothing transport "1.9.3" "f"
  obtain ⟨request, info, -, -, -, htells, -, hrun⟩ := hasked (by decide)
  have hbody : Release.ofText? body = some ⟨"v1.10.0", "h"⟩ := by
    have hescaped : ∀ s : String, Json.StringText s.toList (s.toList.flatMap Json.escape) :=
      fun s => Json.stringText_escape s.toList
    have hlead : Json.Lead true [] := Json.gap_nil
    have hpage : Json.MembersForm false
        [("html_url", '"' :: ("h".toList.flatMap Json.escape ++ ['"']))] _ :=
      .member (Json.lead_comma Json.gap_nil) (hescaped "html_url") Json.gap_nil Json.gap_nil
        (.close Json.gap_nil)
    have htag : Json.MembersForm false
        [("tag_name", '"' :: ("v1.10.0".toList.flatMap Json.escape ++ ['"'])), _] _ :=
      .member (Json.lead_comma Json.gap_space) (hescaped "tag_name") Json.gap_nil Json.gap_nil hpage
    have hall : Json.MembersForm true [("a", ['[', ']']), _, _] _ :=
      .member hlead (hescaped "a") Json.gap_nil Json.gap_nil htag
    refine hread ⟨"v1.10.0", "h"⟩ body ⟨[], [], _, _, Json.gap_nil, Json.gap_nil, hall, ?_,
      ⟨_, hescaped _, by decide⟩, ⟨_, hescaped _, by decide⟩, by decide⟩
    rw [List.forall_mem_cons, List.forall_mem_cons, List.forall_mem_singleton]
    exact ⟨⟨1, .array (.closeItems Json.gap_nil)⟩, ⟨0, .string (hescaped _).loose⟩,
      ⟨0, .string (hescaped _).loose⟩⟩
  have hinfo := (htells reply).of_release _ _ rfl rfl hbody
  have hnewer : isNewer "v1.10.0" "1.9.3" = true := by decide +kernel
  refine ⟨request, ?_⟩
  rw [hrun]
  show ((info reply, [(request, reply)]), 1) = _
  rw [hinfo, hnewer]

end RequestRunner
