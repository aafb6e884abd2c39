import Mathlib.Data.List.Basic
import RequestRunner.Url.Reading

/-!
# Hosts of addresses of the web

How an address is read depends on its scheme, and it keeps the scheme with which it is read. A text
whose scheme is one of the web is an address only if it names a host.

## Main results

* `bind_eq_ok_iff`, `check_eq_ok_iff` — what a row of steps and checks has found if it succeeds.
* `Url.ofText_cases` — how an address was read.
* `Url.hasHost_of_ofText` — an address of the web has a host.
-/

namespace RequestRunner

section

variable {ε α β : Type} {b : β}

/-- Two steps succeed if the first one does and the second one with what it gave. -/
lemma bind_eq_ok_iff {x : Except ε α} {f : α → Except ε β} :
    (x >>= f) = .ok b ↔ ∃ a, x = .ok a ∧ f a = .ok b := by
  cases x <;> simp [bind, Except.bind]

/-- Behind a check there is success only if it passes. -/
lemma check_eq_ok_iff {c : Prop} [Decidable c] {e : ε} {f : α → Except ε β} {x : Except ε β} :
    (if c then (throw e : Except ε α) >>= f else x) = .ok b ↔ ¬ c ∧ x = .ok b := by
  by_cases hc : c
  · simp [hc, bind, Except.bind, throw, throwThe, MonadExceptOf.throw]
  · simp [hc]

end

namespace Url

variable {scheme text : String} {kind : SchemeClass} {cs more : List Char} {flag : Bool} {url : Url}
  {host : Host} {authority : Authority}

/-! ### Hosts that are read -/

/-- A host of an address of the web is a name that is not empty, or a number.

**Proof sketch.** By the ways to read a host. One in brackets, or one that ends in a number, is no
name; and the empty name is refused before it becomes a host. -/
lemma ne_empty_of_readSpecialHost (h : readSpecialHost cs = .ok host) : host ≠ .name "" := by
  rw [readSpecialHost] at h
  split at h
  · rw [readBracketed] at h
    split at h
    · cases h
    split at h
    · obtain rfl := Except.ok.inj h
      exact Host.noConfusion
    · cases h
  · split at h
    · cases h
    · cases h
    rename_i name hnil _
    split at h
    · split at h
      · obtain rfl := Except.ok.inj h
        exact Host.noConfusion
      · cases h
    · obtain rfl := Except.ok.inj h
      intro hempty
      exact hnil (String.ofList_eq_empty_iff.1 (Host.name.inj hempty))

/-- The host of an address of the web is not empty. -/
lemma ne_empty_of_readHost (h : readHost .web cs = .ok host) : host ≠ .name "" := by
  simp only [readHost] at h
  split at h
  · cases h
  · exact ne_empty_of_readSpecialHost h

/-- What stands between the scheme and the path has a host that was read. -/
lemma exists_readHost_of_readAuthority
    (h : readAuthority scheme kind cs flag = .ok (authority, more)) :
    ∃ text, readHost kind text = .ok authority.host := by
  rw [readAuthority] at h
  simp only [check_eq_ok_iff, bind_eq_ok_iff] at h
  obtain ⟨-, host, hhost, -, port, -, -, hpure⟩ := h
  obtain ⟨rfl, -⟩ := Prod.mk.inj (Except.ok.inj hpure)
  exact ⟨_, hhost⟩

/-! ### Ways to read an address -/

/-- An address that begins with a host keeps its scheme, and has a host that was read. -/
lemma of_ofHosted (h : ofHosted scheme kind cs = .ok url) :
    url.scheme = scheme ∧ ∃ text host, readHost kind text = .ok host ∧ url.host = some host := by
  rw [ofHosted] at h
  simp only [bind_eq_ok_iff] at h
  obtain ⟨⟨authority, more⟩, hauthority, hpure⟩ := h
  obtain ⟨text, hhost⟩ := exists_readHost_of_readAuthority hauthority
  obtain rfl := Except.ok.inj hpure
  exact ⟨rfl, text, authority.host, hhost, rfl⟩

/-- An address of a file keeps its scheme. All ways to read one end in an address that is given this
scheme.

**Proof sketch.** One case for each way in which the slashes stand. -/
lemma scheme_of_ofFile (h : ofFile cs = .ok url) : url.scheme = "file" := by
  have hbind : ∀ {α : Type} {x : Except Fault α} {f : α → Url},
      (x >>= fun a => pure (f a)) = .ok url → (∀ a, (f a).scheme = "file") → url.scheme = "file" := by
    intro α x f hx hf
    obtain ⟨a, -, ha⟩ := bind_eq_ok_iff.1 hx
    obtain rfl := Except.ok.inj ha
    exact hf a
  rw [ofFile] at h
  dsimp only at h
  split at h
  · split at h
    · split at h
      · exact hbind h fun _ => rfl
      · exact hbind h fun _ => rfl
    · exact hbind h fun _ => rfl
  · exact hbind h fun _ => rfl

/-- **How an address was read**: as one of the web, with a host, or else as one whose scheme is not
of this class.

**Proof sketch.** By the class of the scheme that stands in front. Each of the three ways to go on
gives the address the scheme that it was chosen by. -/
theorem ofText_cases (h : ofText text = .ok url) :
    (SchemeClass.ofScheme url.scheme = .web ∧
      ∃ part host, readHost .web part = .ok host ∧ url.host = some host) ∨
    SchemeClass.ofScheme url.scheme ≠ .web := by
  rw [ofText] at h
  split at h
  · cases h
  rename_i scheme rest _
  split at h
  · rename_i hweb
    obtain ⟨hscheme, hhost⟩ := of_ofHosted h
    exact .inl ⟨hscheme ▸ hweb, hhost⟩
  · rw [scheme_of_ofFile h]
    exact .inr (by decide)
  · rename_i hother
    right
    split at h
    · rw [(of_ofHosted h).1, hother]
      exact SchemeClass.noConfusion
    · obtain rfl := Except.ok.inj h
      rw [show (ofUnhosted scheme _).scheme = scheme from rfl, hother]
      exact SchemeClass.noConfusion

/-- **An address of the web has a host.** It was read as one of the web (`ofText_cases`), and no
host of these is empty. -/
theorem hasHost_of_ofText (h : ofText text = .ok url)
    (hscheme : url.scheme = "http" ∨ url.scheme = "https") : url.hasHost := by
  have hweb : SchemeClass.ofScheme url.scheme = .web := by
    rcases hscheme with hscheme | hscheme <;> rw [hscheme] <;> decide
  rcases ofText_cases h with ⟨-, part, host, hhost, hurl⟩ | hnot
  · have hne := ne_empty_of_readHost hhost
    rw [hasHost, hurl]
    cases host with
    | name name =>
      have hname : name ≠ "" := fun he => hne (he ▸ rfl)
      simpa using hname
    | ipv4 | ipv6 => rfl
  · exact absurd hweb hnot

end Url

end RequestRunner
