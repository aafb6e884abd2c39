import RequestRunner.Proofs.Text.Utf8

/-!
# Decoding in spite of faults

What any bytes are read as can be said without reading them. Where the bytes of a character stand,
it is read; otherwise there is a fault, for which one replacement character is read: the longest
bytes that begin a character, or one byte if it begins none. Only one text can be read in this way.

## Main definitions

* `Text.Begins` — bytes that begin a character.
* `Text.IsFault` — bytes that are read as one replacement character.
* `Text.Decodes` — what bytes are read as.

## Main results

* `Text.decodes_iff` — bytes are decoded to what they are read as, and to nothing else.
* `Text.decodeLossy_encode` — the bytes of a text are decoded to the text.
-/

namespace RequestRunner.Text

/-- The bytes are the first ones of a character, or all of them. -/
def Begins (part : List UInt8) : Prop := ∃ c, part <+: encodeChar c

/-- The bytes `bad` in front of `rest` are a fault: no character stands there, they are one byte or
begin a character, and nothing longer does. -/
structure IsFault (bad rest : List UInt8) : Prop where
  ne_nil : bad ≠ []
  no_char : ∀ c, ¬ encodeChar c <+: bad ++ rest
  single_or_begins : bad.length = 1 ∨ Begins bad
  longest : ∀ part, part <+: bad ++ rest → Begins part → part.length ≤ bad.length

/-- The bytes are read as the characters: as a character where its bytes stand, and as a replacement
character where there is a fault. -/
inductive Decodes : List UInt8 → List Char → Prop where
  | nil : Decodes [] []
  | char {c : Char} {rest : List UInt8} {cs : List Char} (h : Decodes rest cs) :
      Decodes (encodeChar c ++ rest) (c :: cs)
  | fault {bad rest : List UInt8} {cs : List Char} (hbad : IsFault bad rest) (h : Decodes rest cs) :
      Decodes (bad ++ rest) (replacement :: cs)

/-- The bytes may follow a leading byte, as far as they go. -/
def Follows (lead : UInt8) (part : List UInt8) : Prop :=
  (∀ b ∈ part.head?, isSecond lead b) ∧ ∀ b ∈ part.tail, isTail b

variable {c : Char} {lead : UInt8} {bytes part rest tail : List UInt8} {cs : List Char}
  {n taken fuel fuel' : ℕ}

/-! ### What may follow a leading byte -/

/-- No byte at all may follow any leading byte. -/
lemma follows_nil : Follows lead [] := by simp [Follows]

/-- What may follow may also end earlier. -/
lemma Follows.of_prefix (h : Follows lead tail) (hpart : part <+: tail) : Follows lead part := by
  obtain ⟨more, rfl⟩ := hpart
  cases part with
  | nil => exact follows_nil
  | cons b part =>
    exact ⟨h.1, fun d hd => h.2 d (List.mem_append_left more hd)⟩

/-- At most three bytes belong to a leading byte. -/
@[grind →] lemma tailLength?_le (h : tailLength? lead = some n) : n ≤ 3 := by
  rw [tailLength?_eq] at h
  grind

/-- A character is read of a leading byte and as many bytes as belong to it. -/
lemma of_decodeFirst_eq_some (h : decodeFirst lead rest = (some c, taken)) :
    tailLength? lead = some taken ∧ taken ≤ rest.length ∧ Follows lead (rest.take taken) := by
  unfold decodeFirst at h
  split at h <;> grind [Follows]

/-- Without a character some byte is missing or may not stand where it stands, behind all those that
are taken. There is no third case: either the first byte leads nothing, or what is taken follows it,
is less than what belongs to it, and cannot be made longer. -/
lemma of_decodeFirst_eq_none (h : decodeFirst lead rest = (none, taken)) :
    (tailLength? lead = none ∧ taken = 0) ∨
      ∃ n, tailLength? lead = some n ∧ taken < n ∧ taken ≤ rest.length ∧
        Follows lead (rest.take taken) ∧
        (taken < rest.length → ¬ Follows lead (rest.take (taken + 1))) := by
  unfold decodeFirst at h
  split at h <;> grind [Follows]

/-- Behind what follows some other byte may stand. For the second byte the lowest one of its range
does, for any later one the lowest of all.

**Proof sketch.** By whether a second byte is there. The ranges of the second byte depend on the
first one, but none of them is empty. -/
lemma Follows.exists_concat (h : Follows lead part) : ∃ b, Follows lead (part ++ [b]) := by
  cases part with
  | nil =>
    have hsecond : ∃ b, isSecond lead b := by
      refine ⟨.ofNat (if lead.toNat = 0xE0 then 0xA0 else if lead.toNat = 0xF0 then 0x90 else 0x80),
        ?_⟩
      rw [isSecond_iff, toNat_ofNat_of_lt (by grind)]
      grind
    obtain ⟨b, hb⟩ := hsecond
    exact ⟨b, by simpa [Follows] using hb⟩
  | cons b part =>
    refine ⟨0x80, h.1, fun d hd => ?_⟩
    rcases List.mem_append.1 hd with hd | hd
    · exact h.2 d hd
    · rw [List.mem_singleton.1 hd]
      rfl

/-- Behind what follows any number of other bytes may stand. -/
lemma Follows.exists_append (h : Follows lead part) (n : ℕ) :
    ∃ more, more.length = n ∧ Follows lead (part ++ more) := by
  induction n with
  | zero => exact ⟨[], rfl, by rwa [List.append_nil]⟩
  | succ n ih =>
    obtain ⟨more, hlength, hmore⟩ := ih
    obtain ⟨b, hb⟩ := hmore.exists_concat
    refine ⟨more ++ [b], by rw [List.length_append, hlength, List.length_singleton], ?_⟩
    rwa [← List.append_assoc]

/-! ### The bytes that begin a character -/

/-- The bytes of a character are a leading byte and what belongs to it. -/
lemma encodeChar_eq (c : Char) :
    ∃ lead tail, encodeChar c = lead :: tail ∧ tailLength? lead = some tail.length ∧
      Follows lead tail := by
  obtain ⟨lead, tail, hchar, hfirst⟩ := decodeFirst_encodeChar c
  obtain ⟨hlength, -, hfollows⟩ := of_decodeFirst_eq_some (hfirst [])
  rw [List.append_nil, List.take_length] at hfollows
  exact ⟨lead, tail, hchar, hlength, hfollows⟩

/-- All that may follow a leading byte makes a character with it.

**Proof sketch.** If no character were read, a byte would be missing or would not follow, against
the assumptions. The character that is read has just these bytes (`encodeChar_of_decodeFirst`). -/
lemma exists_encodeChar_eq (hlength : tailLength? lead = some tail.length)
    (hfollows : Follows lead tail) : ∃ c, encodeChar c = lead :: tail := by
  rcases hfirst : decodeFirst lead tail with ⟨_ | c, taken⟩
  · rcases of_decodeFirst_eq_none hfirst with ⟨hnone, -⟩ | ⟨n, hn, hlt, -, -, hstop⟩
    · rw [hnone] at hlength
      cases hlength
    · obtain rfl := Option.some.inj (hn.symm.trans hlength)
      exact absurd (hfollows.of_prefix (List.take_prefix _ _)) (hstop hlt)
  · obtain ⟨hn, -, -⟩ := of_decodeFirst_eq_some hfirst
    obtain rfl := Option.some.inj (hn.symm.trans hlength)
    have hchar := encodeChar_of_decodeFirst hfirst
    rw [List.drop_length, List.append_nil] at hchar
    exact ⟨c, hchar⟩

/-- **Which bytes begin a character**: a leading byte with no more bytes behind it than belong to
it, all of which may follow it.

**Proof sketch.** The bytes of a character are of this form, and so is what they begin with. The
other way round, bytes that may follow are made up to the length that belongs to the leading byte
(`Follows.exists_append`), and then are those of a character (`exists_encodeChar_eq`). -/
lemma begins_cons_iff : Begins (lead :: part) ↔
    ∃ n, tailLength? lead = some n ∧ part.length ≤ n ∧ Follows lead part := by
  constructor
  · rintro ⟨c, hc⟩
    obtain ⟨lead', tail, hchar, hlength, hfollows⟩ := encodeChar_eq c
    rw [hchar] at hc
    obtain ⟨rfl, hpart⟩ := List.cons_prefix_cons.1 hc
    exact ⟨tail.length, hlength, hpart.length_le, hfollows.of_prefix hpart⟩
  · rintro ⟨n, hn, hle, hfollows⟩
    obtain ⟨more, hmore, hall⟩ := hfollows.exists_append (n - part.length)
    have hlength : tailLength? lead = some (part ++ more).length := by
      rw [hn, List.length_append, hmore, Nat.add_sub_cancel' hle]
    obtain ⟨c, hc⟩ := exists_encodeChar_eq hlength hall
    exact ⟨c, more, by rw [hc, List.cons_append]⟩

/-! ### Faults -/

/-- **Where no character is read, what is taken is a fault.**

**Proof sketch.** A character that stood there would have been read (`decodeFirst_encodeChar`). What
is taken begins a character, or is the leading byte alone (`of_decodeFirst_eq_none`). Longer bytes
that begin a character would have one more byte that may follow, but the reading stopped since there
is none. -/
lemma isFault_of_decodeFirst (h : decodeFirst lead rest = (none, taken)) :
    IsFault (lead :: rest.take taken) (rest.drop taken) := by
  have hall : (lead :: rest.take taken) ++ rest.drop taken = lead :: rest := by
    rw [List.cons_append, List.take_append_drop]
  refine ⟨List.cons_ne_nil _ _, fun c hc => ?_, ?_, fun part hpart hbegins => ?_⟩
  · obtain ⟨lead', tail, hchar, hfirst⟩ := decodeFirst_encodeChar c
    rw [hall, hchar] at hc
    obtain ⟨rfl, more, rfl⟩ := List.cons_prefix_cons.1 hc
    rw [hfirst more] at h
    cases h
  · rcases of_decodeFirst_eq_none h with ⟨-, rfl⟩ | ⟨n, hn, hlt, -, hfollows, -⟩
    · exact .inl rfl
    · have hle : (rest.take taken).length ≤ n :=
        Nat.le_trans (List.length_take_le _ _) (Nat.le_of_lt hlt)
      exact .inr (begins_cons_iff.2 ⟨n, hn, hle, hfollows⟩)
  · rw [hall] at hpart
    rcases part with _ | ⟨lead', part⟩
    · exact Nat.zero_le _
    obtain ⟨rfl, htail⟩ := List.cons_prefix_cons.1 hpart
    obtain ⟨n, hn, -, hfollows⟩ := begins_cons_iff.1 hbegins
    rcases of_decodeFirst_eq_none h with ⟨hnone, -⟩ | ⟨-, -, -, htaken, -, hstop⟩
    · rw [hnone] at hn
      cases hn
    rw [List.length_cons, List.length_cons, List.length_take, Nat.min_eq_left htaken]
    by_contra hlong
    have hlt : taken + 1 ≤ part.length := by omega
    have htake : rest.take (taken + 1) <+: part :=
      List.prefix_of_prefix_length_le (List.take_prefix _ _) htail
        (Nat.le_trans (List.length_take_le _ _) hlt)
    exact hstop (Nat.le_trans hlt htail.length_le) (hfollows.of_prefix htake)

/-- Of two faults in front of the same bytes neither is longer than the other, since each is as long
as what begins a character can be. -/
lemma IsFault.length_le {bad bad' rest' : List UInt8} (h : IsFault bad rest)
    (h' : IsFault bad' rest') (heq : bad ++ rest = bad' ++ rest') : bad.length ≤ bad'.length := by
  rcases h.single_or_begins with hone | hbegins
  · exact hone ▸ List.length_pos_of_ne_nil h'.ne_nil
  · exact h'.longest bad (heq ▸ List.prefix_append bad rest) hbegins

/-- Bytes have one fault in front at most. -/
lemma IsFault.unique {bad bad' rest' : List UInt8} (h : IsFault bad rest)
    (h' : IsFault bad' rest') (heq : bad ++ rest = bad' ++ rest') : bad = bad' ∧ rest = rest' :=
  List.append_inj heq (Nat.le_antisymm (h.length_le h' heq) (h'.length_le h heq.symm))

/-! ### Any bytes -/

/-- Enough fuel is enough: with as much of it as there are bytes, how much there is makes no
difference.

**Proof sketch.** By induction on the fuel. Each step takes the first byte at least, so the fuel
that is left is enough for the bytes that are left. -/
lemma decodeAll_congr (h : bytes.length ≤ fuel) (h' : bytes.length ≤ fuel') :
    decodeAll fuel bytes = decodeAll fuel' bytes := by
  induction fuel generalizing bytes fuel' with
  | zero =>
    obtain rfl := List.length_eq_zero_iff.1 (Nat.le_zero.1 h)
    cases fuel' <;> rfl
  | succ fuel ih =>
    rcases bytes with _ | ⟨lead, rest⟩
    · cases fuel' <;> rfl
    obtain ⟨fuel', rfl⟩ := Nat.exists_eq_add_of_le' (Nat.lt_of_lt_of_le (Nat.succ_pos _) h')
    rcases hfirst : decodeFirst lead rest with ⟨c, taken⟩
    have hdrop : (rest.drop taken).length ≤ rest.length := (List.drop_sublist _ _).length_le
    have hrest := Nat.le_trans hdrop (Nat.le_of_succ_le_succ h)
    have hrest' := Nat.le_trans hdrop (Nat.le_of_succ_le_succ h')
    simp only [decodeAll, hfirst, ih hrest hrest']

/-- One step of decoding: a character or its replacement, and then what is left behind the bytes
that were taken. The fuel, which is the number of bytes, is out of sight from here on. -/
lemma decodeLossy_cons : decodeLossy (lead :: rest) =
    (decodeFirst lead rest).1.getD replacement ::
      decodeLossy (rest.drop (decodeFirst lead rest).2) := by
  have hdrop : (rest.drop (decodeFirst lead rest).2).length ≤ rest.length :=
    (List.drop_sublist _ _).length_le
  rw [decodeLossy, List.length_cons, decodeAll, List.map_cons,
    decodeAll_congr hdrop (Nat.le_refl _), decodeLossy]

/-- Bytes are decoded to something that they are read as.

**Proof sketch.** Induction on the number of bytes, since one step takes one byte at least. A
character that is read stands there with its bytes, and what is taken without a character is a fault
(`isFault_of_decodeFirst`). -/
lemma decodes_decodeLossy (bytes : List UInt8) : Decodes bytes (decodeLossy bytes) := by
  induction hlength : bytes.length using Nat.strongRecOn generalizing bytes with
  | ind length ih =>
    rcases bytes with _ | ⟨lead, rest⟩
    · exact .nil
    have hlt : (rest.drop (decodeFirst lead rest).2).length < length := by
      have hdrop := (List.drop_sublist (decodeFirst lead rest).2 rest).length_le
      rw [List.length_cons] at hlength
      omega
    have hrest := ih _ hlt _ rfl
    rw [decodeLossy_cons]
    rcases hfirst : decodeFirst lead rest with ⟨_ | c, taken⟩ <;> rw [hfirst] at hrest
    · have hread := Decodes.fault (isFault_of_decodeFirst hfirst) hrest
      rwa [List.cons_append, List.take_append_drop] at hread
    · have hread := Decodes.char (c := c) hrest
      rwa [encodeChar_of_decodeFirst hfirst] at hread

/-- **Bytes are decoded to what they are read as, and to nothing else.**

**Proof sketch.** What is left to show is that bytes are read in one way only. Induction on that
reading: the decoder reads back the character whose bytes stand there, and takes the fault that
stands there, since there is only one (`IsFault.unique`) and no character. -/
theorem decodes_iff : Decodes bytes cs ↔ decodeLossy bytes = cs := by
  refine ⟨fun h => ?_, fun h => h ▸ decodes_decodeLossy bytes⟩
  induction h with
  | nil => rfl
  | @char c rest cs _ ih =>
    obtain ⟨lead, tail, hchar, hfirst⟩ := decodeFirst_encodeChar c
    rw [hchar, List.cons_append, decodeLossy_cons, hfirst rest, List.drop_left, ih,
      Option.getD_some]
  | @fault bad rest cs hbad _ ih =>
    obtain ⟨lead, tail, rfl⟩ := List.exists_cons_of_ne_nil hbad.ne_nil
    rw [List.cons_append, decodeLossy_cons]
    rcases hfirst : decodeFirst lead (tail ++ rest) with ⟨_ | c, taken⟩
    · have hall : (lead :: tail) ++ rest =
          (lead :: (tail ++ rest).take taken) ++ (tail ++ rest).drop taken := by
        rw [List.cons_append, List.cons_append, List.take_append_drop]
      rw [← (hbad.unique (isFault_of_decodeFirst hfirst) hall).2, ih, Option.getD_none]
    · exact absurd ⟨_, encodeChar_of_decodeFirst hfirst⟩ (hbad.no_char c)

/-- The bytes of characters are read as these characters, one after the other. -/
lemma decodes_encode (cs : List Char) : Decodes (encode cs) cs := by
  induction cs with
  | nil => exact .nil
  | cons c cs ih => exact .char ih

/-- **The bytes of a text are decoded to the text.** -/
theorem decodeLossy_encode (cs : List Char) : decodeLossy (encode cs) = cs :=
  decodes_iff.1 (decodes_encode cs)

end RequestRunner.Text
