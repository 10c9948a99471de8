import FieldGuard.Proofs.Traversal
import FieldGuard.Text.Utf8

namespace FieldGuard.Text.Utf8

open String (utf8EncodeChar)

def IsTail (b : UInt8) : Prop := 0x80 ≤ b.toNat ∧ b.toNat ≤ 0xbf

/-- Bytes and the number that they write as short as possible. Surrogates are left out and so is
what lies beyond the last character. -/
inductive Writes : List UInt8 → Nat → Prop
  | one {a : UInt8} (h : a.toNat < 0x80) : Writes [a] a.toNat
  | two {a b : UInt8} {n : Nat} (ha : 0xc0 ≤ a.toNat ∧ a.toNat ≤ 0xdf) (hb : IsTail b)
      (hn : n = a.toNat % 0x20 * 64 + b.toNat % 64) (h : 0x80 ≤ n) : Writes [a, b] n
  | three {a b c : UInt8} {n : Nat} (ha : 0xe0 ≤ a.toNat ∧ a.toNat ≤ 0xef) (hb : IsTail b)
      (hc : IsTail c) (hn : n = (a.toNat % 0x10 * 64 + b.toNat % 64) * 64 + c.toNat % 64)
      (h : 0x800 ≤ n) (hs : n < 0xd800 ∨ 0xdfff < n) : Writes [a, b, c] n
  | four {a b c d : UInt8} {n : Nat} (ha : 0xf0 ≤ a.toNat ∧ a.toNat ≤ 0xf7) (hb : IsTail b)
      (hc : IsTail c) (hd : IsTail d)
      (hn : n = ((a.toNat % 8 * 64 + b.toNat % 64) * 64 + c.toNat % 64) * 64 + d.toNat % 64)
      (h : 0x10000 ≤ n) (hs : n < 0x110000) : Writes [a, b, c, d] n

theorem eq_ofNat_iff {b : UInt8} {n : Nat} (h : n < 256) : b = UInt8.ofNat n ↔ b.toNat = n := by
  rw [← UInt8.toNat_inj, UInt8.toNat_ofNat', Nat.mod_eq_of_lt h]

theorem toNat_ofNat {n : Nat} (h : n < 256) : (UInt8.ofNat n).toNat = n :=
  (eq_ofNat_iff h).mp rfl

theorem encode_eq (c : Char) : utf8EncodeChar c =
    if c.toNat ≤ 0x7f then [UInt8.ofNat c.toNat]
    else if c.toNat ≤ 0x7ff then
      [UInt8.ofNat (c.toNat / 64 % 0x20 + 0xc0), UInt8.ofNat (c.toNat % 64 + 0x80)]
    else if c.toNat ≤ 0xffff then
      [UInt8.ofNat (c.toNat / 4096 % 0x10 + 0xe0), UInt8.ofNat (c.toNat / 64 % 64 + 0x80),
        UInt8.ofNat (c.toNat % 64 + 0x80)]
    else
      [UInt8.ofNat (c.toNat / 262144 % 8 + 0xf0), UInt8.ofNat (c.toNat / 4096 % 64 + 0x80),
        UInt8.ofNat (c.toNat / 64 % 64 + 0x80), UInt8.ofNat (c.toNat % 64 + 0x80)] := rfl

theorem Writes.isValidChar {bs : List UInt8} {n : Nat} (h : Writes bs n) : n.isValidChar := by
  cases h with
  | one h => exact .inl (by omega)
  | two ha hb hn h => exact .inl (by omega)
  | three ha hb hc hn h hs => exact hs.imp_right fun hs => ⟨hs, by omega⟩
  | four ha hb hc hd hn h hs => exact .inr ⟨by omega, hs⟩

theorem Writes.eq_encode {bs : List UInt8} {n : Nat} (h : Writes bs n) :
    bs = utf8EncodeChar (Char.ofNat n) := by
  have hn : (Char.ofNat n).toNat = n := by
    rw [Char.ofNat, dif_pos h.isValidChar]
    rfl
  rw [encode_eq, hn]
  cases h with
  | one h => rw [if_pos (by omega), UInt8.ofNat_toNat]
  | two ha hb hn h =>
    obtain ⟨hb, hb'⟩ := hb
    rw [if_neg (by omega), if_pos (by omega)]
    simp only [List.cons.injEq, and_true]
    refine ⟨?_, ?_⟩ <;> rw [eq_ofNat_iff (by omega)] <;> omega
  | three ha hb hc hn h hs =>
    obtain ⟨hb, hb'⟩ := hb
    obtain ⟨hc, hc'⟩ := hc
    rw [if_neg (by omega), if_neg (by omega), if_pos (by omega)]
    simp only [List.cons.injEq, and_true]
    refine ⟨?_, ?_, ?_⟩ <;> rw [eq_ofNat_iff (by omega)] <;> omega
  | four ha hb hc hd hn h hs =>
    obtain ⟨hb, hb'⟩ := hb
    obtain ⟨hc, hc'⟩ := hc
    obtain ⟨hd, hd'⟩ := hd
    rw [if_neg (by omega), if_neg (by omega), if_neg (by omega)]
    simp only [List.cons.injEq, and_true]
    refine ⟨?_, ?_, ?_, ?_⟩ <;> rw [eq_ofNat_iff (by omega)] <;> omega

theorem writes_encode (c : Char) : Writes (utf8EncodeChar c) c.toNat := by
  have hv : c.toNat.isValidChar := c.valid
  rw [encode_eq]
  generalize c.toNat = n at hv
  have tail (m : Nat) : IsTail (UInt8.ofNat (m % 64 + 0x80)) := by
    rw [IsTail, toNat_ofNat (by omega)]
    omega
  split
  · have hn := toNat_ofNat (n := n) (by omega)
    have h := Writes.one (a := UInt8.ofNat n) (by omega)
    rwa [hn] at h
  split
  · refine .two ?_ (tail n) ?_ (by omega) <;> (repeat rw [toNat_ofNat (by omega)]) <;> omega
  split
  · refine .three ?_ (tail _) (tail n) ?_ (by omega) (by omega) <;>
      (repeat rw [toNat_ofNat (by omega)]) <;> omega
  · refine .four ?_ (tail _) (tail _) (tail n) ?_ (by omega) (by omega) <;>
      (repeat rw [toNat_ofNat (by omega)]) <;> omega

theorem continue?_succ_eq_ok_iff {read count following low high : Nat} {bs : List UInt8}
    {r : Nat × List UInt8} : continue? read count (following + 1) low high bs = .ok r ↔
      ∃ b rest, bs = b :: rest ∧ (low ≤ b.toNat ∧ b.toNat ≤ high) ∧
        continue? (read * 64 + b.toNat % 64) (count + 1) following 0x80 0xbf rest = .ok r := by
  cases bs with
  | nil => simp [continue?]
  | cons b rest =>
    rw [continue?]
    split
    · rename_i h
      simp [h]
    · rename_i h
      simp only [reduceCtorEq, List.cons.injEq, false_iff]
      rintro ⟨_, _, ⟨rfl, rfl⟩, hb, -⟩
      exact h hb

theorem exists_form_iff {following b x : Nat} :
    (∃ low high, form? b = some ⟨following, low, high⟩ ∧ low ≤ x ∧ x ≤ high) ↔
      (0x80 ≤ x ∧ x ≤ 0xbf) ∧ (following = 1 ∧ 0xc2 ≤ b ∧ b ≤ 0xdf ∨
        following = 2 ∧ (0xe0 ≤ b ∧ b ≤ 0xef) ∧ (b = 0xe0 → 0xa0 ≤ x) ∧ (b = 0xed → x ≤ 0x9f) ∨
        following = 3 ∧ (0xf0 ≤ b ∧ b ≤ 0xf4) ∧ (b = 0xf0 → 0x90 ≤ x) ∧ (b = 0xf4 → x ≤ 0x8f)) := by
  unfold form?
  constructor
  · rintro ⟨low, high, h, hx⟩
    repeat' split at h
    all_goals cases h
    all_goals omega
  · intro h
    repeat' split
    all_goals
      simp only [Option.some.injEq, Form.mk.injEq, reduceCtorEq, false_and, exists_false]
    all_goals
      first
        | exact ⟨_, _, ⟨by omega, rfl, rfl⟩, by omega⟩
        | omega

theorem following_pos {b : Nat} {form : Form} (h : form? b = some form) : 0 < form.following := by
  unfold form? at h
  repeat' split at h
  all_goals cases h
  all_goals decide

theorem decodeFrom_cons_of_form {b : UInt8} {rest after : List UInt8} {form : Form} {n : Nat}
    (position : Nat) (hb : 0x80 ≤ b.toNat) (hf : form? b.toNat = some form)
    (hc : continue? (leadBits b.toNat form.following) 1 form.following form.low form.high rest =
      .ok (n, after)) :
    decodeFrom position (b :: rest) =
      (decodeFrom (position + form.following + 1) after).map (Char.ofNat n :: ·) := by
  rw [decodeFrom, if_neg (Nat.not_lt.mpr hb), hf]
  dsimp only
  split
  · rename_i h
    rw [hc] at h
    cases h
  · rename_i h
    rw [hc] at h
    cases h
    rfl

theorem decodeFrom_of_writes {bs : List UInt8} {n : Nat} (h : Writes bs n) (position : Nat)
    (after : List UInt8) : decodeFrom position (bs ++ after) =
      (decodeFrom (position + bs.length) after).map (Char.ofNat n :: ·) := by
  cases h with
  | @one a h =>
    change decodeFrom position (a :: after) = _
    rw [decodeFrom, if_pos h]
    rfl
  | @two a b n ha hb hn h =>
    obtain ⟨low, high, hf, hx⟩ := exists_form_iff.mpr ⟨hb, .inl ⟨rfl, by omega, ha.2⟩⟩
    refine decodeFrom_cons_of_form position (by omega) hf ?_
    refine continue?_succ_eq_ok_iff.mpr ⟨b, after, rfl, hx, ?_⟩
    rw [hn]
    rfl
  | @three a b c n ha hb hc hn h hs =>
    obtain ⟨hl, hh⟩ := hb
    obtain ⟨low, high, hf, hx⟩ := exists_form_iff.mpr ⟨⟨hl, hh⟩,
      .inr <| .inl ⟨rfl, ha, by omega, by omega⟩⟩
    refine decodeFrom_cons_of_form position (by omega) hf ?_
    refine continue?_succ_eq_ok_iff.mpr ⟨b, c :: after, rfl, hx, ?_⟩
    refine continue?_succ_eq_ok_iff.mpr ⟨c, after, rfl, hc, ?_⟩
    rw [hn]
    rfl
  | @four a b c d n ha hb hc hd hn h hs =>
    obtain ⟨hl, hh⟩ := hb
    obtain ⟨low, high, hf, hx⟩ := (exists_form_iff (b := a.toNat)).mpr ⟨⟨hl, hh⟩,
      .inr <| .inr ⟨rfl, by omega, by omega, by omega⟩⟩
    refine decodeFrom_cons_of_form position (by omega) hf ?_
    refine continue?_succ_eq_ok_iff.mpr ⟨b, c :: d :: after, rfl, hx, ?_⟩
    refine continue?_succ_eq_ok_iff.mpr ⟨c, d :: after, rfl, hc, ?_⟩
    refine continue?_succ_eq_ok_iff.mpr ⟨d, after, rfl, hd, ?_⟩
    rw [hn]
    rfl

theorem exists_writes_of_continue? {b : UInt8} {rest after : List UInt8} {form : Form} {n : Nat}
    (hf : form? b.toNat = some form)
    (hc : continue? (leadBits b.toNat form.following) 1 form.following form.low form.high rest =
      .ok (n, after)) : ∃ bs, b :: rest = bs ++ after ∧ Writes bs n := by
  obtain ⟨following, low, high⟩ := form
  obtain ⟨k, rfl⟩ := Nat.exists_eq_succ_of_ne_zero (Nat.ne_of_gt (following_pos hf))
  obtain ⟨x, rest, rfl, hx, hc⟩ := continue?_succ_eq_ok_iff.mp hc
  obtain ⟨hb, ⟨hk, hl, hh⟩ | ⟨hk, ha, hl, hh⟩ | ⟨hk, ha, hl, hh⟩⟩ :=
    exists_form_iff.mp ⟨low, high, hf, hx⟩
  · cases hk
    obtain ⟨hn, rfl⟩ : b.toNat % 0x20 * 64 + x.toNat % 64 = n ∧ rest = after :=
      Prod.mk.inj (Except.ok.inj hc)
    exact ⟨[b, x], rfl, .two (by omega) hb hn.symm (by omega)⟩
  · cases hk
    obtain ⟨y, rest, rfl, hy, hc⟩ := continue?_succ_eq_ok_iff.mp hc
    obtain ⟨hn, rfl⟩ : (b.toNat % 0x10 * 64 + x.toNat % 64) * 64 + y.toNat % 64 = n ∧
      rest = after := Prod.mk.inj (Except.ok.inj hc)
    exact ⟨[b, x, y], rfl, .three ha hb hy hn.symm (by omega) (by omega)⟩
  · cases hk
    obtain ⟨y, rest, rfl, hy, hc⟩ := continue?_succ_eq_ok_iff.mp hc
    obtain ⟨z, rest, rfl, hz, hc⟩ := continue?_succ_eq_ok_iff.mp hc
    obtain ⟨hn, rfl⟩ :
        ((b.toNat % 8 * 64 + x.toNat % 64) * 64 + y.toNat % 64) * 64 + z.toNat % 64 = n ∧
          rest = after := Prod.mk.inj (Except.ok.inj hc)
    exact ⟨[b, x, y, z], rfl, .four (by omega) hb hy hz hn.symm (by omega) (by omega)⟩

theorem exists_writes_of_decodeFrom {b : UInt8} {rest : List UInt8} {position : Nat}
    {cs : List Char} (h : decodeFrom position (b :: rest) = .ok cs) :
    ∃ bs n after, b :: rest = bs ++ after ∧ Writes bs n := by
  rw [decodeFrom] at h
  split at h
  · rename_i hb
    exact ⟨[b], _, rest, rfl, .one hb⟩
  · split at h
    · cases h
    · rename_i form hf
      split at h
      · cases h
      · rename_i n after hc
        obtain ⟨bs, hb, hw⟩ := exists_writes_of_continue? hf hc
        exact ⟨bs, n, after, hb, hw⟩

theorem decodeFrom_eq_ok_iff {position : Nat} {bs : List UInt8} {cs : List Char} :
    decodeFrom position bs = .ok cs ↔ bs = cs.flatMap utf8EncodeChar := by
  constructor
  · intro h
    induction hn : bs.length using Nat.strongRecOn generalizing position bs cs with
    | ind n ih =>
      subst hn
      cases bs with
      | nil =>
        rw [decodeFrom] at h
        cases h
        rfl
      | cons b rest =>
        obtain ⟨front, n, after, hb, hw⟩ := exists_writes_of_decodeFrom h
        rw [hb, decodeFrom_of_writes hw] at h
        obtain ⟨cs, hcs, rfl⟩ := Traversal.map_eq_ok_iff.mp h
        -- A character takes at least one byte, so the induction is on the number of bytes.
        have hl : after.length < (b :: rest).length := by
          rw [hb, List.length_append, hw.eq_encode]
          exact Nat.lt_add_of_pos_left (List.length_pos_of_ne_nil String.utf8EncodeChar_ne_nil)
        rw [hb, List.flatMap_cons, ← hw.eq_encode, ← ih _ hl hcs rfl]
  · rintro rfl
    induction cs generalizing position with
    | nil => rw [List.flatMap_nil, decodeFrom]
    | cons c cs ih =>
      rw [List.flatMap_cons, decodeFrom_of_writes (writes_encode c), ih, Char.ofNat_toNat]
      rfl

theorem decode_eq_ok_iff {bs : List UInt8} {cs : List Char} :
    decode bs = .ok cs ↔ bs = cs.flatMap utf8EncodeChar :=
  decodeFrom_eq_ok_iff

theorem flatMap_encode_injective {cs cs' : List Char}
    (h : cs.flatMap utf8EncodeChar = cs'.flatMap utf8EncodeChar) : cs = cs' :=
  Except.ok.inj ((decode_eq_ok_iff.mpr rfl).symm.trans (decode_eq_ok_iff.mpr h))

end FieldGuard.Text.Utf8
