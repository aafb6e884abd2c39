import RequestRunner.Proofs.Url.Hosts
import RequestRunner.Url.Reader

/-!
# Lawful readers of addresses

What a client relies on, whoever reads its addresses: an address of the web names a host, and
absolute addresses have schemes of any name. The reader of the program keeps to both.

## Main definitions

* `Url.IsScheme` — a text is the name of a scheme.
* `Url.Reader.Lawful` — what is relied on of a reader.

## Main results

* `Url.Reader.lawful_standard` — the reader of the program keeps to it.
-/

namespace RequestRunner.Url

/-- A text is the name of a scheme in the form in which an address holds it: a letter, then letters,
digits and the signs `+`, `-` and `.`, where no letter is a capital. -/
structure IsScheme (scheme : String) : Prop where
  head : ∃ c name, scheme.toList = c :: name ∧ c.isAlpha
  chars : ∀ c ∈ scheme.toList, isSchemeChar c ∧ c.toLower = c

/-- What a client relies on. An address of the web has a host, and absolute addresses are read
whichever scheme they have. -/
structure Reader.Lawful (reader : Reader) : Prop where
  hasHost : ∀ text url, reader.parse text = .ok url →
    url.scheme = "http" ∨ url.scheme = "https" → url.hasHost
  any_scheme : ∀ scheme, IsScheme scheme →
    ∃ url, reader.parse (scheme ++ "://h/") = .ok url ∧ url.scheme = scheme ∧ url.hasHost

variable {scheme : String} {kind : SchemeClass} {cs rest : List Char} {c : Char}

/-! ### Reading a scheme -/

/-- No character of a scheme is one that does not count at the ends of a text. -/
lemma not_isOuterBlank_of_isSchemeChar (h : isSchemeChar c) : ¬ isOuterBlank c := by
  intro hblank
  have hsmall : ∀ n < 33, isSchemeChar (Char.ofNat n) = false := by decide
  have hle : c.toNat ≤ 32 := of_decide_eq_true hblank
  have hnot := hsmall c.toNat (Nat.lt_succ_of_le hle)
  rw [Char.ofNat_toNat, h] at hnot
  exact Bool.noConfusion hnot

/-- A text without blanks and control characters counts as a whole.

**Proof sketch.** Nothing is dropped in front, nor behind, and no line break is taken out, since
line breaks are among the characters that are excluded. -/
lemma significant_eq_self (h : ∀ c ∈ cs, ¬ isOuterBlank c) : significant cs = cs := by
  have hdrop : ∀ ds : List Char, (∀ c ∈ ds, c ∈ cs) → ds.dropWhile isOuterBlank = ds := by
    intro ds hds
    cases ds with
    | nil => rfl
    | cons d ds => exact List.dropWhile_cons_of_neg (h d (hds d List.mem_cons_self))
  have hbreak : ∀ c ∈ cs, (!isLineBreak c) = true := by
    intro c hc
    rw [Bool.not_eq_true', Bool.eq_false_iff]
    intro hline
    refine h c hc ?_
    simp only [isLineBreak, Bool.or_eq_true, beq_iff_eq] at hline
    rcases hline with (rfl | rfl) | rfl <;> decide
  rw [significant, hdrop cs fun _ hc => hc, hdrop cs.reverse fun _ hc => List.mem_reverse.1 hc,
    List.reverse_reverse, List.filter_eq_self.2 hbreak]

/-- **The scheme in front of a colon is read** as it stands.

**Proof sketch.** The characters of a scheme are taken up to the colon, which is none of them. They
are small letters already, so to make them small changes nothing. -/
theorem readScheme?_append (h : IsScheme scheme) :
    readScheme? (scheme.toList ++ ':' :: rest) = some (scheme, rest) := by
  obtain ⟨c, name, hname, hc⟩ := h.head
  have hall : ∀ c ∈ scheme.toList, isSchemeChar c = true := fun c hc => (h.chars c hc).1
  have hcolon : ¬ isSchemeChar ':' = true := by decide
  have hsmall : (c :: name).map Char.toLower = scheme.toList := by
    rw [← hname, List.map_congr_left fun c hc => (h.chars c hc).2, List.map_id']
  rw [readScheme?, List.takeWhile_append_of_pos hall, List.dropWhile_append_of_pos hall,
    List.takeWhile_cons_of_neg hcolon, List.dropWhile_cons_of_neg hcolon, List.append_nil, hname]
  simp only [hc, if_true, hsmall, String.ofList_toList]

/-! ### Reading an address of any scheme -/

/-- Only one scheme is that of files. -/
lemma eq_file_of_ofScheme (h : SchemeClass.ofScheme scheme = .file) : scheme = "file" := by
  unfold SchemeClass.ofScheme at h
  split at h
  · exact SchemeClass.noConfusion h
  · split at h
    · assumption
    · exact SchemeClass.noConfusion h

/-- The address with a host of one letter and no more than a slash behind it. -/
lemma ofHosted_letter (hhost : readHost kind ['h'] = .ok (.name "h")) :
    ofHosted scheme kind ['h', '/'] =
      .ok ⟨scheme, none, some (.name "h"), none, .segments (hostedPath kind ['/']), none, none⟩ := by
  have hauthority : readAuthority scheme kind ['h'] true = .ok (⟨none, .name "h", none⟩, []) := by
    have hsplit : splitAtLastAt? ['h'] = none := by decide
    have hlength : hostLength false ['h'] = 1 := by decide
    have hport : readPort (portText []) = .ok none := by decide
    simp [readAuthority, hsplit, hlength, hhost, hport, bind, Except.bind, pure, Except.pure]
  have hwords : ['h', '/'].takeWhile (!endsAuthority kind.isSpecial ·) = ['h'] ∧
      ['h', '/'].dropWhile (!endsAuthority kind.isSpecial ·) = ['/'] := by
    cases kind <;> decide
  rw [ofHosted]
  simp only [hwords.1, hwords.2, List.isEmpty_cons, Bool.not_false, hauthority]
  rfl

/-- **The address of any scheme with a host of one letter is read.**

**Proof sketch.** The text has no blanks, so it counts as a whole (`significant_eq_self`), and the
scheme is read up to its colon (`readScheme?_append`). What follows is read in one of three ways. An
address of the web and one of no known class have the letter for a host (`ofHosted_letter`), and so
does that of a file, whose scheme can only be `file`. -/
theorem exists_ofText_eq (h : IsScheme scheme) :
    ∃ url, ofText (scheme ++ "://h/") = .ok url ∧ url.scheme = scheme ∧ url.hasHost := by
  have hsignificant : significant (scheme ++ "://h/").toList =
      scheme.toList ++ ':' :: ['/', '/', 'h', '/'] := by
    rw [String.toList_append]
    refine significant_eq_self fun c hc => ?_
    rcases List.mem_append.1 hc with hname | hrest
    · exact not_isOuterBlank_of_isSchemeChar (h.chars c hname).1
    · have hnone : ("://h/".toList.all fun c => !isOuterBlank c) = true := by decide
      simpa using List.all_eq_true.1 hnone c hrest
  rw [ofText, hsignificant, readScheme?_append h]
  dsimp only
  cases hkind : SchemeClass.ofScheme scheme with
  | web =>
    have hhost : readHost .web ['h'] = .ok (.name "h") := by decide +kernel
    exact ⟨_, ofHosted_letter hhost, rfl, rfl⟩
  | file =>
    have hfile : scheme = "file" := eq_file_of_ofScheme hkind
    have hread : ofFile ['/', '/', 'h', '/'] =
        .ok ⟨"file", none, some (.name "h"), none, .segments [""], none, none⟩ := by
      decide +kernel
    exact ⟨_, hread, hfile.symm, rfl⟩
  | other =>
    have hhost : readHost .other ['h'] = .ok (.name "h") := by decide +kernel
    exact ⟨_, ofHosted_letter hhost, rfl, rfl⟩

namespace Reader

/-- The reader of the program reads the addresses that its texts are. -/
lemma standard_parse_eq_ok_iff {text : String} {url : Url} :
    standard.parse text = .ok url ↔ ofText text = .ok url := by
  change (ofText text).mapError Fault.message = .ok url ↔ ofText text = .ok url
  cases ofText text <;> simp [Except.mapError]

/-- **The reader of the program keeps to what is relied on.** -/
theorem lawful_standard : standard.Lawful where
  hasHost _ _ h hscheme := hasHost_of_ofText (standard_parse_eq_ok_iff.1 h) hscheme
  any_scheme _ h := by
    obtain ⟨url, hread, hurl⟩ := exists_ofText_eq h
    exact ⟨url, standard_parse_eq_ok_iff.2 hread, hurl⟩

end Reader

end RequestRunner.Url
