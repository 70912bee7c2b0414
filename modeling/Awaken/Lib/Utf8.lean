import Mathlib.Data.List.Basic

namespace Awaken.Lib

def utf8Bytes (text : List Char) : List UInt8 := text.flatMap String.utf8EncodeChar

@[simp] theorem utf8Bytes_nil : utf8Bytes [] = [] := rfl

@[simp] theorem utf8Bytes_cons (c : Char) (text : List Char) :
    utf8Bytes (c :: text) = String.utf8EncodeChar c ++ utf8Bytes text := rfl

theorem utf8EncodeChar_eq_cons (c : Char) : ∃ b bs, String.utf8EncodeChar c = b :: bs := by
  refine List.exists_cons_of_length_pos ?_
  rw [String.length_utf8EncodeChar]
  exact c.utf8Size_pos

theorem utf8EncodeChar_prefix_free {c d : Char} {x y : List UInt8}
    (h : String.utf8EncodeChar c ++ x = String.utf8EncodeChar d ++ y) : c = d ∧ x = y := by
  have hcd : c = d := by
    have hdecode := congrArg (fun bytes => ByteArray.utf8DecodeChar? bytes.toByteArray 0) h
    simp only [List.toByteArray_append, ByteArray.utf8DecodeChar?_utf8EncodeChar_append] at hdecode
    exact Option.some.inj hdecode
  subst hcd
  exact ⟨rfl, List.append_cancel_left h⟩

theorem utf8_inner_byte {c d : Char} {x y bs : List UInt8} {b : UInt8}
    (hc : String.utf8EncodeChar c = x ++ b :: y) (hd : String.utf8EncodeChar d = b :: bs) :
    x = [] := by
  have hfirst : b.IsUTF8FirstByte := by
    have h0 : 0 < (String.utf8EncodeChar d).length := by simp [hd]
    have h : (String.utf8EncodeChar d)[0].IsUTF8FirstByte :=
      UInt8.isUTF8FirstByte_getElem_utf8EncodeChar.mpr rfl
    simpa [hd] using h
  have hi : x.length < (String.utf8EncodeChar c).length := by simp [hc]
  have hget : (String.utf8EncodeChar c)[x.length] = b := by simp [hc]
  rw [← hget, UInt8.isUTF8FirstByte_getElem_utf8EncodeChar] at hfirst
  exact List.length_eq_zero_iff.mp hfirst

theorem utf8_ascii_byte {c d : Char} {b : UInt8} (hc : b ∈ String.utf8EncodeChar c)
    (hd : String.utf8EncodeChar d = [b]) : c = d := by
  obtain ⟨x, y, hxy⟩ := List.append_of_mem hc
  have hx := utf8_inner_byte hxy hd
  subst hx
  have h : String.utf8EncodeChar c ++ [] = String.utf8EncodeChar d ++ y := by
    rw [List.append_nil, hxy, hd, List.nil_append, List.singleton_append]
  exact (utf8EncodeChar_prefix_free h).1

theorem utf8_later_byte {c d : Char} {first b : UInt8} {more : List UInt8}
    (hc : String.utf8EncodeChar c = first :: more) (hd : String.utf8EncodeChar d = [b]) :
    b ∉ more := by
  intro hmem
  obtain ⟨x, y, rfl⟩ := List.append_of_mem hmem
  have hx := utf8_inner_byte (x := first :: x) hc hd
  cases hx

theorem utf8Bytes_split {c : Char} {bs : List UInt8} {b : UInt8} (hc : String.utf8EncodeChar c = b :: bs)
    {text : List Char} {x y : List UInt8} (h : utf8Bytes text = x ++ b :: y) :
    ∃ front back, text = front ++ back ∧ utf8Bytes back = b :: y := by
  induction text generalizing x with
  | nil => simp at h
  | cons d text ih =>
    rw [utf8Bytes_cons] at h
    rcases List.append_eq_append_iff.mp h with ⟨x', hx, htext⟩ | ⟨y', hd, hy⟩
    · obtain ⟨front, back, rfl, hback⟩ := ih htext
      exact ⟨d :: front, back, rfl, hback⟩
    · cases y' with
      | nil =>
        rw [List.nil_append] at hy
        exact ⟨[d], text, rfl, hy.symm⟩
      | cons b' y' =>
        obtain ⟨rfl, rfl⟩ := List.cons.inj hy
        obtain rfl := utf8_inner_byte hd hc
        exact ⟨[], d :: text, rfl, by rw [utf8Bytes_cons, h, List.nil_append]⟩

theorem utf8Bytes_cons_iff {c : Char} {text : List Char} {z : List UInt8} :
    utf8Bytes text = String.utf8EncodeChar c ++ z ↔ ∃ rest, text = c :: rest ∧ z = utf8Bytes rest := by
  constructor
  · intro h
    cases text with
    | nil =>
      obtain ⟨b, bs, hb⟩ := utf8EncodeChar_eq_cons c
      simp [hb] at h
    | cons d text =>
      obtain ⟨rfl, rfl⟩ := utf8EncodeChar_prefix_free h
      exact ⟨text, rfl, rfl⟩
  · rintro ⟨rest, rfl, rfl⟩
    rfl

theorem utf8Size_of_ascii {c : Char} (h : c.toNat < 128) : c.utf8Size = 1 := by
  have hle : c.val ≤ 127 := by
    rw [UInt32.le_iff_toNat_le]
    exact Nat.le_of_lt_succ h
  simp [Char.utf8Size, hle]

theorem utf8EncodeChar_ofByte (b : UInt8) (h : b.toNat < 128) :
    String.utf8EncodeChar (Char.ofNat b.toNat) = [b] := by
  have hval : (Char.ofNat b.toNat).val.toNat = b.toNat := by
    have hvalid : b.toNat.isValidChar := .inl (by omega)
    rw [Char.ofNat, dif_pos hvalid]
    rfl
  have hsize : (Char.ofNat b.toNat).utf8Size = 1 := utf8Size_of_ascii (by rwa [Char.toNat, hval])
  rw [String.utf8EncodeChar_eq_singleton hsize]
  congr 1
  apply UInt8.toNat_inj.mp
  rw [UInt32.toNat_toUInt8, hval]
  omega

theorem utf8_ascii_char {c : Char} {b : UInt8} (h : b.toNat < 128)
    (hb : b ∈ String.utf8EncodeChar c) : c = Char.ofNat b.toNat :=
  utf8_ascii_byte hb (utf8EncodeChar_ofByte b h)

theorem ascii_of_utf8Size {c : Char} (h : c.utf8Size = 1) : c.toNat < 128 := by
  simp only [Char.utf8Size] at h
  split at h
  · rename_i hle
    exact Nat.lt_succ_of_le (UInt32.le_iff_toNat_le.mp hle)
  · split at h
    · omega
    · split at h <;> omega

theorem utf8_one_byte {c : Char} (h : c.utf8Size = 1) :
    ∃ b, String.utf8EncodeChar c = [b] ∧ Char.ofNat b.toNat = c := by
  have hlt : c.val.toNat < 128 := ascii_of_utf8Size h
  refine ⟨_, String.utf8EncodeChar_eq_singleton h, ?_⟩
  rw [UInt32.toNat_toUInt8, Nat.mod_eq_of_lt (by omega)]
  exact Char.ofNat_toNat c

theorem utf8_wide_byte {c : Char} {b : UInt8} (h : c.utf8Size ≠ 1)
    (hb : b ∈ String.utf8EncodeChar c) : 128 ≤ b.toNat := by
  by_contra hlt
  have hc := utf8_ascii_char (Nat.lt_of_not_le hlt) hb
  have hlen := String.length_utf8EncodeChar c
  rw [hc, utf8EncodeChar_ofByte b (Nat.lt_of_not_le hlt), ← hc] at hlen
  exact h hlen.symm

theorem utf8Bytes_append (text more : List Char) :
    utf8Bytes (text ++ more) = utf8Bytes text ++ utf8Bytes more :=
  List.flatMap_append

theorem utf8Bytes_injective {text other : List Char} (h : utf8Bytes text = utf8Bytes other) :
    text = other := by
  induction text generalizing other with
  | nil =>
    cases other with
    | nil => rfl
    | cons d other =>
      obtain ⟨b, bs, hd⟩ := utf8EncodeChar_eq_cons d
      rw [utf8Bytes_cons, hd] at h
      cases h
  | cons c text ih =>
    cases other with
    | nil =>
      obtain ⟨b, bs, hc⟩ := utf8EncodeChar_eq_cons c
      rw [utf8Bytes_cons, hc] at h
      cases h
    | cons d other =>
      obtain ⟨rfl, hrest⟩ := utf8EncodeChar_prefix_free h
      rw [ih hrest]

end Awaken.Lib
