import ApiReference.Proofs.Text.Utf8

/-!
# Decoding Any Bytes

Bytes that are no UTF-8 are decoded as well: what begins the bytes of a character and breaks off is
one fault, and so is a byte that no character begins with.  This is said without the decoder, by
the bytes of characters alone, and leaves one text for any bytes.
-/

namespace ApiReference.Text.Utf8

/-! ## Texts with faults -/

/-- Bytes that are no character and are replaced together: no character begins here, and no more
bytes of what follows could belong to one. -/
structure Fault (fault after : List UInt8) : Prop where
  ne_nil : fault ≠ []
  broken : ∀ c, ¬String.utf8EncodeChar c <+: fault ++ after
  begun : fault.length = 1 ∨ ∃ c, fault <+: String.utf8EncodeChar c
  longest : ∀ b rest, after = b :: rest → ∀ c, ¬fault ++ [b] <+: String.utf8EncodeChar c

/-- Bytes are read as a text: the bytes of a character as the character, and each fault as the
replacement character. -/
inductive Reads : List UInt8 → List Char → Prop
  | nil : Reads [] []
  | char (c : Char) {bytes : List UInt8} {cs : List Char} (h : Reads bytes cs) :
    Reads (String.utf8EncodeChar c ++ bytes) (c :: cs)
  | fault {fault bytes : List UInt8} {cs : List Char} (hfault : Fault fault bytes)
    (h : Reads bytes cs) : Reads (fault ++ bytes) ('\ufffd' :: cs)

theorem utf8EncodeChar_ne_nil (c : Char) : String.utf8EncodeChar c ≠ [] := by
  obtain ⟨b, tail, hbytes, -⟩ := next_utf8EncodeChar c
  simp [hbytes]

/-- The bytes of one character do not begin those of another. -/
theorem utf8EncodeChar_append_inj {c d : Char} {bytes other : List UInt8}
    (h : String.utf8EncodeChar c ++ bytes = String.utf8EncodeChar d ++ other) :
    c = d ∧ bytes = other := by
  obtain ⟨b, tail, hc, hnextc⟩ := next_utf8EncodeChar c
  obtain ⟨b', tail', hd, hnextd⟩ := next_utf8EncodeChar d
  rw [hc, hd, List.cons_append, List.cons_append] at h
  obtain ⟨rfl, htail⟩ := List.cons.inj h
  have hsame : (some c, bytes) = (some d, other) := by
    rw [← hnextc, ← hnextd, htail]
  exact ⟨Option.some.inj (congrArg Prod.fst hsame), congrArg Prod.snd hsame⟩

/-- Of two faults at the same place neither is longer. -/
theorem Fault.length_le {fault after other rest : List UInt8} (hfault : Fault fault after)
    (hother : Fault other rest) (h : fault ++ after = other ++ rest) :
    other.length ≤ fault.length := by
  by_contra hlonger
  have hwhole : other <+: fault ++ after := ⟨rest, h.symm⟩
  have hbegins : fault <+: other :=
    List.prefix_of_prefix_length_le (List.prefix_append fault after) hwhole (by omega)
  obtain ⟨more, rfl⟩ := hbegins
  have hpositive := List.length_pos_iff.mpr hfault.ne_nil
  rw [List.length_append] at hlonger
  have hmore : more ≠ [] := by
    rintro rfl
    exact hlonger (by simp)
  obtain ⟨b, more, rfl⟩ := List.exists_cons_of_ne_nil hmore
  have hafter : after = b :: (more ++ rest) := by
    rw [List.append_assoc] at h
    exact List.append_cancel_left h
  -- the longer fault is more than a single byte, so a character begins with it
  rcases hother.begun with hone | ⟨c, hc⟩
  · rw [List.length_append, List.length_cons] at hone
    omega
  · have hnext : fault ++ [b] <+: fault ++ b :: more := ⟨more, by simp⟩
    exact hfault.longest b _ hafter c (hnext.trans hc)

/-- A fault ends at one place. -/
theorem Fault.unique {fault after other rest : List UInt8} (hfault : Fault fault after)
    (hother : Fault other rest) (h : fault ++ after = other ++ rest) : after = rest := by
  have hlength := le_antisymm (hother.length_le hfault h.symm) (hfault.length_le hother h)
  exact (List.append_inj h hlength).2

/-- Bytes are read in one way. -/
theorem Reads.unique {bytes : List UInt8} {cs ds : List Char} (hcs : Reads bytes cs)
    (hds : Reads bytes ds) : cs = ds := by
  induction hcs generalizing ds with
  | nil =>
    generalize hbytes : ([] : List UInt8) = bytes at hds
    cases hds with
    | nil => rfl
    | char c h =>
      exact absurd (List.append_eq_nil_iff.mp hbytes.symm).1 (utf8EncodeChar_ne_nil c)
    | fault hfault h => exact absurd (List.append_eq_nil_iff.mp hbytes.symm).1 hfault.ne_nil
  | @char c bytes cs h ih =>
    generalize hbytes : String.utf8EncodeChar c ++ bytes = all at hds
    cases hds with
    | nil => exact absurd (List.append_eq_nil_iff.mp hbytes).1 (utf8EncodeChar_ne_nil c)
    | char d hds =>
      obtain ⟨rfl, rfl⟩ := utf8EncodeChar_append_inj hbytes
      rw [ih hds]
    | fault hfault hds => exact absurd ⟨_, hbytes⟩ (hfault.broken c)
  | @fault fault bytes cs hfault h ih =>
    generalize hbytes : fault ++ bytes = all at hds
    cases hds with
    | nil => exact absurd (List.append_eq_nil_iff.mp hbytes).1 hfault.ne_nil
    | char d hds => exact absurd ⟨_, hbytes.symm⟩ (hfault.broken d)
    | fault hother hds =>
      obtain rfl := hfault.unique hother hbytes
      rw [ih hds]

/-! ## Bytes that continue a lead -/

/-- Bytes that continue a character: so many of them, the first between two bounds. -/
inductive Continues : Nat → UInt8 → UInt8 → List UInt8 → Prop
  | done {low high : UInt8} : Continues 0 low high []
  | more {following : Nat} {low high b : UInt8} {rest : List UInt8} (hb : low ≤ b ∧ b ≤ high)
    (h : Continues following 0x80 0xbf rest) : Continues (following + 1) low high (b :: rest)

/-- The number that bits in continuing bytes make of those before them. -/
def joined (share : Nat) (bytes : List UInt8) : Nat :=
  bytes.foldl (fun n b ↦ n * 64 + (b.toNat - 0x80)) share

theorem joined_cons (share : Nat) (b : UInt8) (rest : List UInt8) :
    joined share (b :: rest) = joined (share * 64 + (b.toNat - 0x80)) rest := by
  rw [joined, joined, List.foldl_cons]

/-- Some bytes continue every beginning of a character. -/
theorem exists_continues (following : Nat) {low high : UInt8} (h : low ≤ high) :
    ∃ bytes, Continues following low high bytes := by
  induction following generalizing low high with
  | zero => exact ⟨[], .done⟩
  | succ following ih =>
    obtain ⟨rest, hrest⟩ := ih (show (0x80 : UInt8) ≤ 0xbf by decide)
    exact ⟨low :: rest, .more ⟨UInt8.le_refl low, h⟩ hrest⟩

theorem of_finish_some {share following : Nat} {low high : UInt8} {bytes after : List UInt8}
    {c : Char} (h : finish share following low high bytes = (some c, after)) :
    ∃ tail, bytes = tail ++ after ∧ Continues following low high tail ∧
      c = Char.ofNat (joined share tail) := by
  induction following generalizing share low high bytes with
  | zero =>
    cases h
    exact ⟨[], rfl, .done, rfl⟩
  | succ following ih =>
    cases bytes with
    | nil => cases h
    | cons b rest =>
      rw [finish] at h
      split at h
      case isTrue hb =>
        obtain ⟨tail, rfl, htail, hc⟩ := ih h
        exact ⟨b :: tail, rfl, .more hb htail, by rw [joined_cons, hc]⟩
      case isFalse => cases h

/-- Where a character breaks off, more bytes could have continued it, but not the next one. -/
theorem of_finish_none {share following : Nat} {low high : UInt8} {bytes after : List UInt8}
    (hbounds : low ≤ high) (h : finish share following low high bytes = (none, after)) :
    ∃ tail, bytes = tail ++ after ∧ (∃ missing, Continues following low high (tail ++ missing)) ∧
      ∀ b rest, after = b :: rest → ∀ missing,
        ¬Continues following low high (tail ++ b :: missing) := by
  induction following generalizing share low high bytes with
  | zero => cases h
  | succ following ih =>
    cases bytes with
    | nil =>
      cases h
      exact ⟨[], rfl, exists_continues _ hbounds, by simp⟩
    | cons b rest =>
      rw [finish] at h
      split at h
      case isTrue hb =>
        obtain ⟨tail, rfl, ⟨missing, hmissing⟩, hnext⟩ := ih (by decide) h
        refine ⟨b :: tail, rfl, ⟨missing, .more hb hmissing⟩, fun d rest hafter missing hmore ↦ ?_⟩
        cases hmore with
        | more _ hmore => exact hnext d rest hafter missing hmore
      case isFalse hb =>
        cases h
        refine ⟨[], rfl, exists_continues _ hbounds, fun d rest hafter missing hmore ↦ ?_⟩
        cases hafter
        cases hmore with
        | more hd _ => exact hb hd

/-! ## Bytes that begin a character -/

theorem lead?_none {n : Nat} (h : 128 ≤ n ∧ n < 194 ∨ 245 ≤ n ∧ n < 256) :
    lead? (UInt8.ofNat n) = none := by
  rcases h with ⟨hlow, hhigh⟩ | ⟨hlow, hhigh⟩
  · interval_cases n <;> rfl
  · interval_cases n <;> rfl

/-- The bytes that begin a character, by the number of bytes that follow. -/
theorem lead?_eq_some {b : UInt8} {lead : Lead} (h : lead? b = some lead) :
    (∃ n < 128, b = UInt8.ofNat n ∧ lead = ⟨n, 0, 0x80, 0xbf⟩) ∨
    (∃ share, 2 ≤ share ∧ share < 32 ∧ b = UInt8.ofNat (share + 192) ∧
      lead = ⟨share, 1, 0x80, 0xbf⟩) ∨
    (∃ share < 16, b = UInt8.ofNat (share + 224) ∧
      lead = ⟨share, 2, if share = 0 then 0xa0 else 0x80, if share = 13 then 0x9f else 0xbf⟩) ∨
    ∃ share < 5, b = UInt8.ofNat (share + 240) ∧
      lead = ⟨share, 3, if share = 0 then 0x90 else 0x80, if share = 4 then 0x8f else 0xbf⟩ := by
  have hlimit : b.toNat < 256 := b.toNat_lt
  have hbyte : b = UInt8.ofNat b.toNat := UInt8.ofNat_toNat.symm
  generalize b.toNat = n at hlimit hbyte
  subst hbyte
  by_cases hone : n < 128
  · exact .inl ⟨n, hone, rfl, Option.some.inj (h.symm.trans (lead?_one hone))⟩
  by_cases hfew : n < 194 ∨ 245 ≤ n
  · rw [lead?_none (by omega)] at h
    cases h
  by_cases htwo : n < 224
  · obtain ⟨share, rfl⟩ := Nat.exists_eq_add_of_le' (show 192 ≤ n by omega)
    rw [lead?_two (by omega) (by omega)] at h
    exact .inr (.inl ⟨share, by omega, by omega, rfl, (Option.some.inj h).symm⟩)
  by_cases hthree : n < 240
  · obtain ⟨share, rfl⟩ := Nat.exists_eq_add_of_le' (show 224 ≤ n by omega)
    rw [lead?_three (by omega)] at h
    exact .inr (.inr (.inl ⟨share, by omega, rfl, (Option.some.inj h).symm⟩))
  · obtain ⟨share, rfl⟩ := Nat.exists_eq_add_of_le' (show 240 ≤ n by omega)
    rw [lead?_four (by omega)] at h
    exact .inr (.inr (.inr ⟨share, by omega, rfl, (Option.some.inj h).symm⟩))

/-- The first of some continuing bytes holds six bits, which are joined to those before them. -/
theorem Continues.exists_bits {following : Nat} {low high : UInt8} {tail : List UInt8}
    (h : Continues (following + 1) low high tail) (hlow : 0x80 ≤ low) (hhigh : high ≤ 0xbf) :
    ∃ bits < 64, ∃ rest, tail = UInt8.ofNat (bits + 128) :: rest ∧ low.toNat ≤ bits + 128 ∧
      bits + 128 ≤ high.toNat ∧ Continues following 0x80 0xbf rest ∧
      ∀ share, joined share tail = joined (share * 64 + bits) rest := by
  cases h with
  | @more _ _ _ b rest hb hrest =>
    simp only [UInt8.le_iff_toNat_le, UInt8.reduceToNat] at hb hlow hhigh
    refine ⟨b.toNat - 128, by omega, rest, ?_, by omega, by omega, hrest, fun share ↦ ?_⟩
    · rw [Nat.sub_add_cancel (by omega), UInt8.ofNat_toNat]
    · exact joined_cons share b rest

/-- A number that is no surrogate is the code point of its character. -/
theorem toNat_ofNat {v : Nat} (h : v < 0xd800 ∨ 0xdfff < v ∧ v < 0x110000) :
    (Char.ofNat v).val.toNat = v :=
  (Char.toNat_ofNat v).trans (if_pos h)

/-- A byte that begins a character and the bytes that continue it are the bytes of a character. -/
theorem utf8EncodeChar_joined {b : UInt8} {lead : Lead} (hlead : lead? b = some lead)
    {tail : List UInt8} (htail : Continues lead.following lead.low lead.high tail) :
    String.utf8EncodeChar (Char.ofNat (joined lead.share tail)) = b :: tail := by
  -- one case for each number of bytes, whose bits are taken apart again
  rcases lead?_eq_some hlead with ⟨n, hn, rfl, rfl⟩ | ⟨share, hlow, hhigh, rfl, rfl⟩ |
    ⟨share, hshare, rfl, rfl⟩ | ⟨share, hshare, rfl, rfl⟩
  all_goals dsimp only at htail ⊢
  · cases htail
    rw [joined, List.foldl_nil, String.utf8EncodeChar, toNat_ofNat (by omega), if_pos (by omega)]
  · obtain ⟨x, hx, rest, rfl, -, -, hrest, hjoin⟩ := htail.exists_bits (by decide) (by decide)
    cases hrest
    rw [hjoin, joined, List.foldl_nil, String.utf8EncodeChar, toNat_ofNat (by omega),
      if_neg (by omega), if_pos (by omega), show (share * 64 + x) / 64 % 32 = share by omega,
      show (share * 64 + x) % 64 = x by omega]
  · obtain ⟨x, hx, rest, rfl, hxlow, hxhigh, hrest, hjoinx⟩ :=
      htail.exists_bits (by split <;> decide) (by split <;> decide)
    obtain ⟨y, hy, rest, rfl, -, -, hrest, hjoiny⟩ := hrest.exists_bits (by decide) (by decide)
    cases hrest
    have hlow : share = 0 → 32 ≤ x := by
      rintro rfl
      simpa using hxlow
    have hhigh : share = 13 → x ≤ 31 := by
      rintro rfl
      simpa using hxhigh
    rw [hjoinx, hjoiny, joined, List.foldl_nil, String.utf8EncodeChar, toNat_ofNat (by omega),
      if_neg (by omega), if_neg (by omega), if_pos (by omega),
      show ((share * 64 + x) * 64 + y) / 4096 % 16 = share by omega,
      show ((share * 64 + x) * 64 + y) / 64 % 64 = x by omega,
      show ((share * 64 + x) * 64 + y) % 64 = y by omega]
  · obtain ⟨x, hx, rest, rfl, hxlow, hxhigh, hrest, hjoinx⟩ :=
      htail.exists_bits (by split <;> decide) (by split <;> decide)
    obtain ⟨y, hy, rest, rfl, -, -, hrest, hjoiny⟩ := hrest.exists_bits (by decide) (by decide)
    obtain ⟨z, hz, rest, rfl, -, -, hrest, hjoinz⟩ := hrest.exists_bits (by decide) (by decide)
    cases hrest
    have hlow : share = 0 → 16 ≤ x := by
      rintro rfl
      simpa using hxlow
    have hhigh : share = 4 → x ≤ 15 := by
      rintro rfl
      simpa using hxhigh
    rw [hjoinx, hjoiny, hjoinz, joined, List.foldl_nil, String.utf8EncodeChar,
      toNat_ofNat (by omega), if_neg (by omega), if_neg (by omega), if_neg (by omega),
      show (((share * 64 + x) * 64 + y) * 64 + z) / 262144 % 8 = share by omega,
      show (((share * 64 + x) * 64 + y) * 64 + z) / 4096 % 64 = x by omega,
      show (((share * 64 + x) * 64 + y) * 64 + z) / 64 % 64 = y by omega,
      show (((share * 64 + x) * 64 + y) * 64 + z) % 64 = z by omega]

theorem continues_of_utf8EncodeChar {c : Char} {b : UInt8} {tail : List UInt8}
    (h : String.utf8EncodeChar c = b :: tail) :
    ∃ lead, lead? b = some lead ∧ Continues lead.following lead.low lead.high tail := by
  obtain ⟨b', tail', hbytes, hnext⟩ := next_utf8EncodeChar c
  obtain ⟨rfl, rfl⟩ := List.cons.inj (hbytes.symm.trans h)
  have hread := hnext []
  unfold next at hread
  split at hread
  case h_1 => cases hread
  case h_2 lead hlead =>
    obtain ⟨tail, htail, hcontinues, -⟩ := of_finish_some hread
    rw [List.append_nil, List.append_nil] at htail
    exact ⟨lead, hlead, htail ▸ hcontinues⟩

theorem low_le_high {b : UInt8} {lead : Lead} (h : lead? b = some lead) : lead.low ≤ lead.high := by
  have hplain : (0x80 : UInt8) ≤ 0xbf := by
    decide
  rcases lead?_eq_some h with ⟨n, -, -, rfl⟩ | ⟨share, -, -, -, rfl⟩ | ⟨share, hshare, -, rfl⟩ |
    ⟨share, hshare, -, rfl⟩
  · exact hplain
  · exact hplain
  · interval_cases share <;> decide
  · interval_cases share <;> decide

/-! ## Decoding -/

section

variable {b : UInt8} {rest after : List UInt8}

theorem of_next_some {c : Char} (h : next b rest = (some c, after)) :
    b :: rest = String.utf8EncodeChar c ++ after := by
  unfold next at h
  split at h
  case h_1 => cases h
  case h_2 lead hlead =>
    obtain ⟨tail, rfl, htail, rfl⟩ := of_finish_some h
    rw [utf8EncodeChar_joined hlead htail, List.cons_append]

theorem of_next_none (h : next b rest = (none, after)) :
    ∃ fault, b :: rest = fault ++ after ∧ Fault fault after := by
  have hbroken : ∀ c, ¬String.utf8EncodeChar c <+: b :: rest := by
    rintro c ⟨more, hmore⟩
    obtain ⟨b', tail, hbytes, hnext⟩ := next_utf8EncodeChar c
    rw [hbytes, List.cons_append] at hmore
    obtain ⟨rfl, rfl⟩ := List.cons.inj hmore
    cases (hnext more).symm.trans h
  unfold next at h
  split at h
  case h_1 hlead =>
    cases h
    refine ⟨[b], rfl, by simp, hbroken, .inl rfl, fun d after hafter c hc ↦ ?_⟩
    obtain ⟨more, hmore⟩ := hc
    obtain ⟨lead, hsome, -⟩ := continues_of_utf8EncodeChar hmore.symm
    cases hlead.symm.trans hsome
  case h_2 lead hlead =>
    obtain ⟨tail, rfl, ⟨missing, hmissing⟩, hnext⟩ := of_finish_none (low_le_high hlead) h
    have hbegun := utf8EncodeChar_joined hlead hmissing
    refine ⟨b :: tail, rfl, by simp, hbroken, .inr ⟨_, missing, hbegun.symm⟩, ?_⟩
    intro d after hafter c hc
    obtain ⟨more, hmore⟩ := hc
    obtain ⟨found, hfound, hcontinues⟩ := continues_of_utf8EncodeChar hmore.symm
    obtain rfl : found = lead := Option.some.inj (hfound.symm.trans hlead)
    refine hnext d after hafter more ?_
    simpa using hcontinues

end

/-- The decoder goes on behind each character or fault. -/
theorem decodeLossy_cons (b : UInt8) (rest : List UInt8) :
    decodeLossy (b :: rest) =
      (next b rest).1.getD '\ufffd' :: decodeLossy (next b rest).2 := by
  rw [decodeLossy, scan, List.map_cons, decodeLossy]

/-- Any bytes are decoded to the text that they are read as. -/
theorem reads_decodeLossy (bytes : List UInt8) : Reads bytes (decodeLossy bytes) := by
  induction hlength : bytes.length using Nat.strongRecOn generalizing bytes with
  | ind length ih =>
    cases bytes with
    | nil =>
      rw [decodeLossy, scan]
      exact .nil
    | cons b rest =>
      have hshorter := length_next_le b rest
      have hrest := ih (next b rest).2.length (by simp at hlength; omega) _ rfl
      rw [decodeLossy_cons]
      cases hnext : next b rest with
      | mk c? after =>
        rw [hnext] at hrest
        cases c? with
        | some c =>
          rw [of_next_some hnext]
          exact .char c hrest
        | none =>
          obtain ⟨fault, hbytes, hfault⟩ := of_next_none hnext
          rw [hbytes]
          exact .fault hfault hrest

theorem reads_iff {bytes : List UInt8} {cs : List Char} :
    Reads bytes cs ↔ decodeLossy bytes = cs := by
  constructor
  · exact (reads_decodeLossy bytes).unique
  · rintro rfl
    exact reads_decodeLossy bytes

end ApiReference.Text.Utf8
