import Mathlib.Data.List.Forall2
import Awaken.Lib.Utf8

namespace Awaken.Lib

inductive GlobToken (α : Type) where
  | any
  | one (a : α)

variable {α : Type}

def GlobToken.Denotes : GlobToken α → List α → Prop
  | .any, _ => True
  | .one a, piece => piece = [a]

/-- The text is cut into one piece for each token of the pattern. -/
def Splits (tokens : List (GlobToken α)) (text : List α) : Prop :=
  ∃ pieces, List.Forall₂ GlobToken.Denotes tokens pieces ∧ pieces.flatten = text

theorem splits_nil {text : List α} : Splits [] text ↔ text = [] := by
  constructor
  · rintro ⟨pieces, hpieces, rfl⟩
    rw [List.forall₂_nil_left_iff.mp hpieces, List.flatten_nil]
  · rintro rfl
    exact ⟨[], .nil, rfl⟩

theorem splits_cons {token : GlobToken α} {tokens : List (GlobToken α)} {text : List α} :
    Splits (token :: tokens) text ↔ ∃ x y, text = x ++ y ∧ token.Denotes x ∧ Splits tokens y := by
  constructor
  · rintro ⟨pieces, hpieces, rfl⟩
    obtain ⟨x, rest, hx, hrest, rfl⟩ := List.forall₂_cons_left_iff.mp hpieces
    exact ⟨x, rest.flatten, List.flatten_cons, hx, rest, hrest, rfl⟩
  · rintro ⟨x, y, rfl, hx, pieces, hpieces, rfl⟩
    exact ⟨x :: pieces, .cons hx hpieces, List.flatten_cons⟩

theorem splits_one_cons {a : α} {tokens : List (GlobToken α)} {text : List α} :
    Splits (.one a :: tokens) text ↔ ∃ rest, text = a :: rest ∧ Splits tokens rest := by
  rw [splits_cons]
  constructor
  · rintro ⟨x, y, rfl, rfl, hy⟩
    exact ⟨y, rfl, hy⟩
  · rintro ⟨rest, rfl, hrest⟩
    exact ⟨[a], rest, rfl, rfl, hrest⟩

theorem splits_any_cons {tokens : List (GlobToken α)} {text : List α} :
    Splits (.any :: tokens) text ↔ ∃ x y, text = x ++ y ∧ Splits tokens y := by
  rw [splits_cons]
  constructor
  · rintro ⟨x, y, htext, -, hy⟩
    exact ⟨x, y, htext, hy⟩
  · rintro ⟨x, y, htext, hy⟩
    exact ⟨x, y, htext, trivial, hy⟩

theorem splits_any_drop {tokens : List (GlobToken α)} {text : List α} {i : Nat}
    (hi : i ≤ text.length) :
    Splits (.any :: tokens) (text.drop i) ↔
      ∃ k, i ≤ k ∧ k ≤ text.length ∧ Splits tokens (text.drop k) := by
  rw [splits_any_cons]
  constructor
  · rintro ⟨x, y, htext, hy⟩
    have hlen := congrArg List.length htext
    rw [List.length_drop, List.length_append] at hlen
    refine ⟨i + x.length, by omega, by omega, ?_⟩
    rwa [← List.drop_drop, htext, List.drop_left]
  · rintro ⟨k, hik, -, hk⟩
    refine ⟨(text.drop i).take (k - i), text.drop k, ?_, hk⟩
    have hdrop : text.drop k = (text.drop i).drop (k - i) := by
      rw [List.drop_drop, Nat.add_sub_cancel' hik]
    rw [hdrop, List.take_append_drop]

theorem splits_ones_append {ones : List α} {tokens : List (GlobToken α)} {text : List α} :
    Splits (ones.map .one ++ tokens) text ↔ ∃ rest, text = ones ++ rest ∧ Splits tokens rest := by
  induction ones generalizing text with
  | nil => simp
  | cons a ones ih =>
    rw [List.map_cons, List.cons_append, splits_one_cons]
    constructor
    · rintro ⟨_, rfl, htail⟩
      obtain ⟨rest, rfl, hrest⟩ := ih.mp htail
      exact ⟨rest, rfl, hrest⟩
    · rintro ⟨rest, rfl, hrest⟩
      exact ⟨ones ++ rest, rfl, ih.mpr ⟨rest, rfl, hrest⟩⟩

section Tokens

variable [DecidableEq α] (escape star : α)

def globTokens : List α → Option (List (GlobToken α))
  | [] => some []
  | a :: rest =>
    if a = escape then
      match rest with
      | [] => none
      | b :: rest => (globTokens rest).map (.one b :: ·)
    else if a = star then (globTokens rest).map (.any :: ·)
    else (globTokens rest).map (.one a :: ·)

variable {escape star}

theorem globTokens_escape (b : α) (rest : List α) :
    globTokens escape star (escape :: b :: rest) = (globTokens escape star rest).map (.one b :: ·) := by
  rw [globTokens, if_pos rfl]

theorem globTokens_escape_nil : globTokens escape star [escape] = none := by
  rw [globTokens, if_pos rfl]

theorem globTokens_star (h : star ≠ escape) (rest : List α) :
    globTokens escape star (star :: rest) = (globTokens escape star rest).map (.any :: ·) := by
  rw [globTokens.eq_def]
  exact (if_neg h).trans (if_pos rfl)

theorem globTokens_one {a : α} (hescape : a ≠ escape) (hstar : a ≠ star) (rest : List α) :
    globTokens escape star (a :: rest) = (globTokens escape star rest).map (.one a :: ·) := by
  rw [globTokens.eq_def]
  exact (if_neg hescape).trans (if_neg hstar)

theorem globTokens_ones {ones : List α} (h : ∀ a ∈ ones, a ≠ escape ∧ a ≠ star) (rest : List α) :
    globTokens escape star (ones ++ rest) =
      (globTokens escape star rest).map (ones.map .one ++ ·) := by
  induction ones with
  | nil => simp
  | cons a ones ih =>
    obtain ⟨hescape, hstar⟩ := h a List.mem_cons_self
    rw [List.cons_append, globTokens_one hescape hstar,
      ih (fun a ha => h a (List.mem_cons_of_mem _ ha)), Option.map_map]
    rfl

end Tokens

section Utf8

def byteTokens : GlobToken Char → List (GlobToken UInt8)
  | .any => [.any]
  | .one c => (String.utf8EncodeChar c).map .one

theorem splits_of_splits_bytes (tokens : List (GlobToken Char)) :
    (∀ text, Splits (tokens.flatMap byteTokens) (utf8Bytes text) → Splits tokens text) ∧
    ∀ text x y, utf8Bytes text = x ++ y → Splits (tokens.flatMap byteTokens) y →
      ∃ front back, text = front ++ back ∧ Splits tokens back := by
  induction tokens with
  | nil =>
    refine ⟨fun text h => ?_, fun text x y htext h => ?_⟩
    · rw [List.flatMap_nil, splits_nil] at h
      cases text with
      | nil => exact (splits_nil).mpr rfl
      | cons c text =>
        obtain ⟨b, bs, hb⟩ := utf8EncodeChar_eq_cons c
        rw [utf8Bytes_cons, hb] at h
        cases h
    · exact ⟨text, [], (List.append_nil text).symm, (splits_nil).mpr rfl⟩
  | cons token tokens ih =>
    obtain ⟨ihWhole, ihSuffix⟩ := ih
    cases token with
    | any =>
      -- a wildcard takes the bytes up to the next character that the rest begins with
      have hsuffix : ∀ text x y, utf8Bytes text = x ++ y →
          Splits ((.any :: tokens : List (GlobToken Char)).flatMap byteTokens) y →
          ∃ front back, text = front ++ back ∧ Splits tokens back := by
        intro text x y htext h
        obtain ⟨x', y', rfl, hy'⟩ := (splits_any_cons).mp h
        exact ihSuffix text (x ++ x') y' (by rw [htext, List.append_assoc]) hy'
      refine ⟨fun text h => ?_, fun text x y htext h => ?_⟩
      · exact (splits_any_cons).mpr (hsuffix text [] _ rfl h)
      · obtain ⟨front, back, rfl, hback⟩ := hsuffix text x y htext h
        exact ⟨front, back, rfl, (splits_any_cons).mpr ⟨[], back, rfl, hback⟩⟩
    | one c =>
      have hwhole : ∀ text, Splits ((.one c :: tokens : List (GlobToken Char)).flatMap byteTokens)
          (utf8Bytes text) → Splits (.one c :: tokens) text := by
        intro text h
        obtain ⟨z, hz, hsplit⟩ := (splits_ones_append).mp h
        obtain ⟨rest, rfl, rfl⟩ := utf8Bytes_cons_iff.mp hz
        exact (splits_one_cons).mpr ⟨rest, rfl, ihWhole rest hsplit⟩
      refine ⟨hwhole, fun text x y htext h => ?_⟩
      obtain ⟨z, hz, -⟩ := (splits_ones_append).mp h
      obtain ⟨b, bs, hb⟩ := utf8EncodeChar_eq_cons c
      have hy : y = b :: (bs ++ z) := by rw [hz, hb, List.cons_append]
      obtain ⟨front, back, rfl, hback⟩ := utf8Bytes_split hb (hy ▸ htext)
      exact ⟨front, back, rfl, hwhole back (by rwa [hback, ← hy])⟩

theorem splits_bytes_of_splits {tokens : List (GlobToken Char)} {text : List Char}
    (h : Splits tokens text) : Splits (tokens.flatMap byteTokens) (utf8Bytes text) := by
  induction tokens generalizing text with
  | nil =>
    rw [(splits_nil).mp h]
    exact (splits_nil).mpr rfl
  | cons token tokens ih =>
    cases token with
    | any =>
      obtain ⟨x, y, rfl, hy⟩ := (splits_any_cons).mp h
      exact (splits_any_cons).mpr ⟨utf8Bytes x, utf8Bytes y, List.flatMap_append, ih hy⟩
    | one c =>
      obtain ⟨rest, rfl, hrest⟩ := (splits_one_cons).mp h
      exact (splits_ones_append).mpr ⟨utf8Bytes rest, utf8Bytes_cons c rest, ih hrest⟩

theorem splits_bytes_iff {tokens : List (GlobToken Char)} {text : List Char} :
    Splits (tokens.flatMap byteTokens) (utf8Bytes text) ↔ Splits tokens text :=
  ⟨(splits_of_splits_bytes tokens).1 text, splits_bytes_of_splits⟩

variable {escape star : Char} {escapeByte starByte : UInt8}
  (hescape : String.utf8EncodeChar escape = [escapeByte])
  (hstar : String.utf8EncodeChar star = [starByte])

include hescape hstar

theorem globTokens_utf8Bytes (hne : star ≠ escape) (pattern : List Char) :
    globTokens escapeByte starByte (utf8Bytes pattern) =
      (globTokens escape star pattern).map (·.flatMap byteTokens) := by
  have hbyte : starByte ≠ escapeByte := by
    rintro rfl
    exact hne (utf8_ascii_byte (by rw [hstar]; exact List.mem_singleton_self _) hescape)
  induction pattern using globTokens.induct escape star with
  | case1 => rfl
  | case2 =>
    rw [utf8Bytes_cons, hescape, globTokens_escape_nil]
    exact globTokens_escape_nil
  | case3 b rest ih =>
    obtain ⟨first, more, hb⟩ := utf8EncodeChar_eq_cons b
    have hmore : ∀ byte ∈ more, byte ≠ escapeByte ∧ byte ≠ starByte := by
      intro byte hmem
      refine ⟨?_, ?_⟩
      · rintro rfl
        exact utf8_later_byte hb hescape hmem
      · rintro rfl
        exact utf8_later_byte hb hstar hmem
    rw [utf8Bytes_cons, utf8Bytes_cons, hescape, hb, List.singleton_append, List.cons_append,
      globTokens_escape, globTokens_ones hmore, ih, globTokens_escape]
    simp only [Option.map_map]
    congr 1
    funext tokens
    simp [byteTokens, hb]
  | case4 rest _ ih =>
    rw [utf8Bytes_cons, hstar, List.singleton_append, globTokens_star hbyte, ih,
      globTokens_star hne]
    simp only [Option.map_map]
    rfl
  | case5 a rest hescape' hstar' ih =>
    have hones : ∀ byte ∈ String.utf8EncodeChar a, byte ≠ escapeByte ∧ byte ≠ starByte := by
      intro byte hmem
      refine ⟨?_, ?_⟩
      · rintro rfl
        exact hescape' (utf8_ascii_byte hmem hescape)
      · rintro rfl
        exact hstar' (utf8_ascii_byte hmem hstar)
    rw [utf8Bytes_cons, globTokens_ones hones, ih, globTokens_one hescape' hstar']
    simp only [Option.map_map]
    rfl

end Utf8

end Awaken.Lib
