import Awaken.Lib.JsonValue
import Awaken.Lib.Reading
import Mathlib.Data.List.Sort
import Mathlib.Tactic.IntervalCases

/-! The canonical bytes of a registry value: objects are printed with their keys sorted at every
depth. Two values have one canonical text only where they are the same value. -/

namespace Awaken.Contract

open Awaken.Lib

inductive PinnedRegistryHashError where
  | serialization (message : String)
  | invalidRequest (message : String)
deriving DecidableEq

variable {N : Type}

section Writer

variable (printer : Printer N)

def comma : UInt8 := ','.toUInt8
def closeBracket : UInt8 := ']'.toUInt8
def closeBrace : UInt8 := '}'.toUInt8

def keyLe (a b : List UInt8 × Except PinnedRegistryHashError (List UInt8)) : Bool := a.1 ≤ b.1

mutual

def writeCanonicalJson : Value N → Except PinnedRegistryHashError (List UInt8)
  | .null => .ok (ascii "null")
  | .bool b => .ok (ascii (if b then "true" else "false"))
  | .string s => .ok (printer.string s)
  | .number n =>
    match printer.nonFinite n with
    | some float => .error (.invalidRequest s!"non-finite number cannot be canonicalized: {float}")
    | none => .ok (printer.number n)
  | .array items => do
    let texts ← writeItems items
    return '['.toUInt8 :: separated comma texts ++ [closeBracket]
  | .object map => do
    let texts ← ((writeEntries map).mergeSort keyLe).mapM (fun entry => do
      return entry.1 ++ ':'.toUInt8 :: (← entry.2))
    return '\x7b'.toUInt8 :: separated comma texts ++ [closeBrace]

def writeItems : List (Value N) → Except PinnedRegistryHashError (List (List UInt8))
  | [] => .ok []
  | v :: items => do return (← writeCanonicalJson v) :: (← writeItems items)

def writeEntries : List (String × Value N) →
    List (List UInt8 × Except PinnedRegistryHashError (List UInt8))
  | [] => []
  | (key, v) :: map => (printer.string key, writeCanonicalJson v) :: writeEntries map

end

def canonicalRegistryJsonBytes (valueSchemaVersion : UInt32) (value : Value N) :
    Except PinnedRegistryHashError (List UInt8) := do
  let text ← writeCanonicalJson printer value
  let version ← writeCanonicalJson printer (.number (printer.ofU32 valueSchemaVersion))
  return ascii "\x7b\"value\":" ++ text ++ ascii ",\"value_schema_version\":" ++ version ++
    [closeBrace]

end Writer

section Printed

variable {printer : Printer N}

def printed (printer : Printer N) (v : Value N) : List UInt8 :=
  match writeCanonicalJson printer v with
  | .ok text => text
  | .error _ => []

def printedEntry (printer : Printer N) (entry : String × Value N) : List UInt8 :=
  printer.string entry.1 ++ ':'.toUInt8 :: printed printer entry.2

def sortedMap (printer : Printer N) (map : List (String × Value N)) : List (String × Value N) :=
  map.mergeSort (fun a b => printer.string a.1 ≤ printer.string b.1)

lemma printed_of_ok {v : Value N} {text : List UInt8} (h : writeCanonicalJson printer v = .ok text) :
    writeCanonicalJson printer v = .ok (printed printer v) ∧ printed printer v = text := by
  rw [printed, h]
  exact ⟨rfl, rfl⟩

lemma writeItems_eq {items : List (Value N)}
    (h : ∀ v ∈ items, writeCanonicalJson printer v = .ok (printed printer v)) :
    writeItems printer items = .ok (items.map (printed printer)) := by
  induction items with
  | nil => rfl
  | cons v items ih =>
    rw [writeItems, h v List.mem_cons_self, ih (fun w hw => h w (List.mem_cons_of_mem _ hw))]
    rfl

lemma writeEntries_eq (map : List (String × Value N)) : writeEntries printer map =
    map.map (fun entry => (printer.string entry.1, writeCanonicalJson printer entry.2)) := by
  induction map with
  | nil => rfl
  | cons entry map ih => rw [writeEntries, ih, List.map_cons]

lemma write_array {items : List (Value N)}
    (h : ∀ v ∈ items, writeCanonicalJson printer v = .ok (printed printer v)) :
    writeCanonicalJson printer (.array items) = .ok ('['.toUInt8 ::
      separated comma (items.map (printed printer)) ++ [closeBracket]) := by
  rw [writeCanonicalJson, writeItems_eq h]
  rfl

lemma write_object {map : List (String × Value N)}
    (h : ∀ key v, (key, v) ∈ map → writeCanonicalJson printer v = .ok (printed printer v)) :
    writeCanonicalJson printer (.object map) = .ok ('\x7b'.toUInt8 ::
      separated comma ((sortedMap printer map).map (printedEntry printer)) ++ [closeBrace]) := by
  have hsorted : (writeEntries printer map).mergeSort keyLe = (sortedMap printer map).map
      (fun entry => (printer.string entry.1, writeCanonicalJson printer entry.2)) := by
    rw [writeEntries_eq, sortedMap]
    refine (List.map_mergeSort ?_).symm
    exact fun a _ b _ => rfl
  have htexts : ∀ entries : List (String × Value N), (∀ entry ∈ entries, entry ∈ map) →
      (entries.map (fun entry => (printer.string entry.1, writeCanonicalJson printer entry.2))).mapM
        (fun entry => do return entry.1 ++ ':'.toUInt8 :: (← entry.2)) =
        .ok (entries.map (printedEntry printer)) := by
    intro entries hsub
    induction entries with
    | nil => rfl
    | cons entry entries ih =>
      rw [List.map_cons, List.mapM_cons, h entry.1 entry.2 (hsub _ List.mem_cons_self),
        ih (fun e he => hsub e (List.mem_cons_of_mem _ he))]
      rfl
  rw [writeCanonicalJson, hsorted, htexts (sortedMap printer map) (fun entry he => List.mem_mergeSort.mp he)]
  rfl

theorem write_eq (h : printer.Faithful) (v : Value N) :
    writeCanonicalJson printer v = .ok (printed printer v) := by
  induction v using Value.induct with
  | hnull => exact (printed_of_ok (writeCanonicalJson.eq_1 printer)).1
  | hbool b => exact (printed_of_ok (writeCanonicalJson.eq_2 printer b)).1
  | hnumber n =>
    have htext : writeCanonicalJson printer (.number n) = .ok (printer.number n) := by
      rw [writeCanonicalJson, h.finite]
    exact (printed_of_ok htext).1
  | hstring s => exact (printed_of_ok (writeCanonicalJson.eq_3 printer s)).1
  | harray items ih => exact (printed_of_ok (write_array ih)).1
  | hobject map ih => exact (printed_of_ok (write_object ih)).1

lemma printed_array (h : printer.Faithful) (items : List (Value N)) : printed printer (.array items) =
    '['.toUInt8 :: (separated comma (items.map (printed printer)) ++ [closeBracket]) :=
  (printed_of_ok (write_array (fun v _ => write_eq h v))).2

lemma printed_object (h : printer.Faithful) (map : List (String × Value N)) :
    printed printer (.object map) = '\x7b'.toUInt8 ::
      (separated comma ((sortedMap printer map).map (printedEntry printer)) ++ [closeBrace]) :=
  (printed_of_ok (write_object (fun _ v _ => write_eq h v))).2

lemma printed_number (h : printer.Faithful) (n : N) :
    printed printer (.number n) = printer.number n := by
  rw [printed, writeCanonicalJson, h.finite]

def kindOf (b : UInt8) : Nat :=
  if b = 'n'.toUInt8 then 0
  else if b = 't'.toUInt8 ∨ b = 'f'.toUInt8 then 1
  else if b = '"'.toUInt8 then 3
  else if b = '['.toUInt8 then 4
  else if b = '\x7b'.toUInt8 then 5
  else if isNumberByte b then 2
  else 6

def kind : Value N → Nat
  | .null => 0
  | .bool _ => 1
  | .number _ => 2
  | .string _ => 3
  | .array _ => 4
  | .object _ => 5

lemma kindOf_number {b : UInt8} (h : isNumberByte b) : kindOf b = 2 := by
  have hb : b ∈ ascii "0123456789+-.eE" := by simpa [isNumberByte] using h
  have hall : (ascii "0123456789+-.eE").all (fun b => kindOf b = 2) = true := rfl
  exact of_decide_eq_true (List.all_eq_true.mp hall b hb)

lemma printed_bool (b : Bool) : printed printer (.bool b) =
    (if b then 't' else 'f').toUInt8 :: ascii (if b then "rue" else "alse") := by
  change ascii (if b then "true" else "false") = _
  cases b <;> decide

lemma printed_opens (h : printer.Faithful) (v : Value N) :
    ∃ b rest, printed printer v = b :: rest ∧ kindOf b = kind v := by
  cases v with
  | null =>
    have htext : ascii "null" = 'n'.toUInt8 :: ascii "ull" := by decide
    exact ⟨_, _, htext, (by decide : kindOf 'n'.toUInt8 = 0)⟩
  | bool b =>
    refine ⟨_, _, printed_bool b, ?_⟩
    change kindOf (if b then 't' else 'f').toUInt8 = 1
    cases b <;> decide
  | number n =>
    obtain ⟨hne, hbytes⟩ := h.numeral n
    obtain ⟨b, rest, heq⟩ := List.exists_cons_of_ne_nil hne
    refine ⟨b, rest, (printed_number h n).trans heq, kindOf_number (hbytes b ?_)⟩
    rw [heq]
    exact List.mem_cons_self
  | string s =>
    obtain ⟨rest, heq⟩ := h.quoted s
    exact ⟨_, rest, heq, (by decide : kindOf '"'.toUInt8 = 3)⟩
  | array items => exact ⟨_, _, printed_array h items, (by decide : kindOf '['.toUInt8 = 4)⟩
  | object map => exact ⟨_, _, printed_object h map, (by decide : kindOf '\x7b'.toUInt8 = 5)⟩

lemma kind_eq (h : printer.Faithful) {v w : Value N} {x y : List UInt8}
    (heq : printed printer v ++ x = printed printer w ++ y) : kind v = kind w := by
  obtain ⟨b, rest, hv, hb⟩ := printed_opens h v
  obtain ⟨c, rest', hw, hc⟩ := printed_opens h w
  rw [hv, hw] at heq
  rw [← hb, ← hc, (List.cons.inj heq).1]

lemma printed_ne_close (h : printer.Faithful) (v : Value N) (x y : List UInt8) :
    printed printer v ++ x ≠ closeBracket :: y := by
  intro heq
  obtain ⟨b, rest, hv, hb⟩ := printed_opens h v
  rw [hv] at heq
  have hclose : kindOf closeBracket = 6 := by decide
  rw [(List.cons.inj heq).1, hclose] at hb
  cases v <;> simp [kind] at hb

lemma printedEntry_ne_close (h : printer.Faithful) (entry : String × Value N) (x y : List UInt8) :
    printedEntry printer entry ++ x ≠ closeBrace :: y := by
  intro heq
  obtain ⟨rest, hkey⟩ := h.quoted entry.1
  rw [printedEntry, hkey] at heq
  exact absurd (List.cons.inj heq).1 (by decide)

def SameEntry (entry entry' : String × Value N) : Prop :=
  entry.1 = entry'.1 ∧ entry.2.Same entry'.2

lemma reads_entry (h : printer.Faithful) {key : String} {v : Value N}
    (hv : ReadsAs isNumberByte (printed printer) Value.Same v) :
    ReadsAs isNumberByte (printedEntry printer) SameEntry (key, v) := by
  intro entry x y hx hy heq
  simp only [printedEntry, List.append_assoc] at heq
  have hkey : key = entry.1 := h.apart heq
  rw [hkey] at heq
  obtain ⟨hsame, hxy⟩ := hv entry.2 x y hx hy (List.cons.inj (List.append_cancel_left heq)).2
  exact ⟨⟨hkey, hsame⟩, hxy⟩

lemma value_unique {map : List (String × Value N)} (hkeys : (map.map Prod.fst).Nodup) {key : String}
    {v w : Value N} (hv : (key, v) ∈ map) (hw : (key, w) ∈ map) : v = w :=
  congrArg Prod.snd (List.inj_on_of_nodup_map hkeys hv hw rfl)

lemma mem_sortedMap {map : List (String × Value N)} {entry : String × Value N} :
    entry ∈ sortedMap printer map ↔ entry ∈ map := List.mem_mergeSort

lemma keys_of_sameEntry {map map' : List (String × Value N)} (h : List.Forall₂ SameEntry map map') :
    map.map Prod.fst = map'.map Prod.fst := by
  induction h with
  | nil => rfl
  | cons hentry _ ih => rw [List.map_cons, List.map_cons, hentry.1, ih]

lemma same_object {map map' : List (String × Value N)} (hkeys : (map.map Prod.fst).Nodup)
    (h : List.Forall₂ SameEntry (sortedMap printer map) (sortedMap printer map')) :
    (Value.object map).Same (.object map') := by
  refine .object (fun key => ?_) (fun key v w hv hw => ?_)
  · have hlists := keys_of_sameEntry h
    have hmem : ∀ m : List (String × Value N),
        key ∈ (sortedMap printer m).map Prod.fst ↔ key ∈ m.map Prod.fst :=
      fun m => ((List.mergeSort_perm m _).map Prod.fst).mem_iff
    rw [← hmem map, ← hmem map', hlists]
  · have hsorted : (key, w) ∈ sortedMap printer map' := (mem_sortedMap).mpr hw
    obtain ⟨i, hi, hget⟩ := List.getElem_of_mem hsorted
    rw [List.forall₂_iff_get] at h
    have hentry := h.2 i (h.1 ▸ hi) hi
    simp only [List.get_eq_getElem, hget] at hentry
    have hmem := (mem_sortedMap).mp (List.getElem_mem (h.1 ▸ hi))
    have hpair : (sortedMap printer map)[i] = (key, ((sortedMap printer map)[i]).2) :=
      Prod.ext hentry.1 rfl
    rw [hpair] at hmem
    rw [value_unique hkeys hv hmem]
    exact hentry.2

lemma printed_reads (h : printer.Faithful) {v : Value N} (hkeyed : v.Keyed) :
    ReadsAs isNumberByte (printed printer) Value.Same v := by
  induction hkeyed with
  | null =>
    intro w x y _ _ heq
    cases w <;> first | exact ⟨.null, List.append_cancel_left heq⟩ | cases kind_eq h heq
  | bool b =>
    intro w x y _ _ heq
    have hkind := kind_eq h heq
    cases w with
    | bool c =>
      have hbc : b = c := by
        rw [printed_bool, printed_bool] at heq
        have hchar := (List.cons.inj heq).1
        cases b <;> cases c <;> first | rfl | exact absurd hchar (by decide)
      subst hbc
      exact ⟨.bool b, List.append_cancel_left heq⟩
    | _ => cases hkind
  | number n =>
    intro w x y hx hy heq
    have hkind := kind_eq h heq
    cases w with
    | number m =>
      rw [printed_number h, printed_number h] at heq
      obtain ⟨hnumber, hxy⟩ := run_inj (h.numeral n).2 (h.numeral m).2 hx hy heq
      obtain rfl := h.number_injective hnumber
      exact ⟨.number n, hxy⟩
    | _ => cases hkind
  | string s =>
    intro w x y _ _ heq
    have hkind := kind_eq h heq
    cases w with
    | string t =>
      obtain rfl : s = t := h.apart heq
      exact ⟨.string s, List.append_cancel_left heq⟩
    | _ => cases hkind
  | @array items hitems ih =>
    intro w x y _ _ heq
    have hkind := kind_eq h heq
    cases w with
    | array items' =>
      simp only [printed_array h, List.cons_append, List.append_assoc, List.cons.injEq,
        true_and, List.nil_append] at heq
      obtain ⟨hsame, hxy⟩ := separated_inj (by decide) (by decide) (by decide)
        (printed_ne_close h) ih heq
      exact ⟨.array hsame, hxy⟩
    | _ => cases hkind
  | @object map hkeys hmap ih =>
    intro w x y _ _ heq
    have hkind := kind_eq h heq
    cases w with
    | object map' =>
      simp only [printed_object h, List.cons_append, List.append_assoc, List.cons.injEq,
        true_and, List.nil_append] at heq
      obtain ⟨hsame, hxy⟩ := separated_inj (by decide) (by decide) (by decide)
        (printedEntry_ne_close h)
        (fun entry he => reads_entry h (ih entry.1 entry.2 (mem_sortedMap.mp he))) heq
      exact ⟨same_object hkeys hsame, hxy⟩
    | _ => cases hkind

lemma printedItems_congr {items items' : List (Value N)} (hall : List.Forall₂ Value.Same items items')
    (h : ∀ v w, v ∈ items → w ∈ items' → v.Same w → printed printer v = printed printer w) :
    items.map (printed printer) = items'.map (printed printer) := by
  induction hall with
  | nil => rfl
  | cons hsame _ ih =>
    rw [List.map_cons, List.map_cons, h _ _ List.mem_cons_self List.mem_cons_self hsame,
      ih (fun v w hv hw => h v w (List.mem_cons_of_mem _ hv) (List.mem_cons_of_mem _ hw))]

lemma printedEntry_congr {map map' : List (String × Value N)}
    (hkeys : map.map Prod.fst = map'.map Prod.fst)
    (h : ∀ key v w, (key, v) ∈ map → (key, w) ∈ map' → printed printer v = printed printer w) :
    map.map (printedEntry printer) = map'.map (printedEntry printer) := by
  induction map generalizing map' with
  | nil =>
    obtain rfl := List.map_eq_nil_iff.mp hkeys.symm
    rfl
  | cons entry map ih =>
    cases map' with
    | nil => cases hkeys
    | cons entry' map' =>
      obtain ⟨key, v⟩ := entry
      obtain ⟨key', w⟩ := entry'
      obtain ⟨rfl, hrest⟩ := List.cons.inj hkeys
      rw [List.map_cons, List.map_cons, ih hrest (fun k v w hv hw =>
        h k v w (List.mem_cons_of_mem _ hv) (List.mem_cons_of_mem _ hw)), printedEntry,
        printedEntry, h key v w List.mem_cons_self List.mem_cons_self]

lemma sorted_keys (h : printer.Faithful) {map map' : List (String × Value N)}
    (hkeys : (map.map Prod.fst).Nodup) (hkeys' : (map'.map Prod.fst).Nodup)
    (hsame : ∀ key, key ∈ map.map Prod.fst ↔ key ∈ map'.map Prod.fst) :
    (sortedMap printer map).map Prod.fst = (sortedMap printer map').map Prod.fst := by
  have hsorted : ∀ m : List (String × Value N), ((sortedMap printer m).map Prod.fst).Pairwise
      (fun key key' => printer.string key ≤ printer.string key') := by
    intro m
    refine List.pairwise_map.mpr ((List.pairwise_mergeSort ?_ ?_ m).imp of_decide_eq_true)
    · intro a b c hab hbc
      exact decide_eq_true (List.le_trans (of_decide_eq_true hab) (of_decide_eq_true hbc))
    · intro a b
      simpa using List.le_total (printer.string a.1) (printer.string b.1)
  have hperm : ∀ m : List (String × Value N),
      ((sortedMap printer m).map Prod.fst).Perm (m.map Prod.fst) :=
    fun m => (List.mergeSort_perm m _).map Prod.fst
  refine List.Perm.eq_of_pairwise (fun key key' _ _ hle hge => ?_) (hsorted map) (hsorted map')
    ((hperm map).trans (((List.perm_ext_iff_of_nodup hkeys hkeys').mpr hsame).trans
      (hperm map').symm))
  exact h.apart (congrArg (· ++ []) (List.le_antisymm hle hge))

lemma printed_same (h : printer.Faithful) {v w : Value N} (hv : v.Keyed) (hw : w.Keyed)
    (hsame : v.Same w) : printed printer v = printed printer w := by
  induction hv generalizing w with
  | null => cases hsame; rfl
  | bool b => cases hsame; rfl
  | number n => cases hsame; rfl
  | string s => cases hsame; rfl
  | array hitems ih =>
    cases hsame with
    | array hall =>
      cases hw with
      | array hitems' =>
        rw [printed_array h, printed_array h, printedItems_congr hall
          (fun v w hv hw hvw => ih v hv (hitems' w hw) hvw)]
  | object hkeys hmap ih =>
    cases hsame with
    | object hsame hvalues =>
      cases hw with
      | object hkeys' hmap' =>
        rw [printed_object h, printed_object h, printedEntry_congr
          (sorted_keys h hkeys hkeys' hsame) (fun key v w hv hw => ih key v (mem_sortedMap.mp hv)
            (hmap' key w (mem_sortedMap.mp hw))
            (hvalues key v w (mem_sortedMap.mp hv) (mem_sortedMap.mp hw)))]

end Printed

section CanonicalBytes

variable {printer : Printer N}

lemma canonical_eq (h : printer.Faithful) (valueSchemaVersion : UInt32) (v : Value N) :
    canonicalRegistryJsonBytes printer valueSchemaVersion v =
      .ok (ascii "\x7b\"value\":" ++ printed printer v ++ ascii ",\"value_schema_version\":" ++
        printer.number (printer.ofU32 valueSchemaVersion) ++ [closeBrace]) := by
  rw [canonicalRegistryJsonBytes, write_eq h v, write_eq h, printed_number h]
  rfl

lemma canonical_bytes_inj (h : printer.Faithful) {s t : UInt32} {v w : Value N} (hv : v.Keyed)
    (heq : ascii "\x7b\"value\":" ++ printed printer v ++ ascii ",\"value_schema_version\":" ++
        printer.number (printer.ofU32 s) ++ [closeBrace] =
      ascii "\x7b\"value\":" ++ printed printer w ++ ascii ",\"value_schema_version\":" ++
        printer.number (printer.ofU32 t) ++ [closeBrace]) : s = t ∧ v.Same w := by
  have hsplit : ascii ",\"value_schema_version\":" = comma :: ascii "\"value_schema_version\":" := by
    decide
  have hcomma : isNumberByte comma = false := by decide
  simp only [List.append_assoc, hsplit, List.cons_append] at heq
  obtain ⟨hsame, hrest⟩ := printed_reads h hv w _ _ (stops_cons hcomma _) (stops_cons hcomma _)
    (List.append_cancel_left heq)
  have hversion := List.append_cancel_left (List.cons.inj hrest).2
  have hclose : isNumberByte closeBrace = false := by decide
  have hnumber := (run_inj (h.numeral _).2 (h.numeral _).2 (stops_cons hclose []) (stops_cons hclose [])
    hversion).1
  exact ⟨h.ofU32_injective (h.number_injective hnumber), hsame⟩

end CanonicalBytes

/-- The printer's laws are what is assumed of `serde_json`. -/
theorem canonical_bytes_iff (printer : Printer N) (h : printer.Faithful) (s t : UInt32)
    (v w : KeyedValue N) : ∃ bytes bytes', canonicalRegistryJsonBytes printer s v.value = .ok bytes ∧
      canonicalRegistryJsonBytes printer t w.value = .ok bytes' ∧
      (bytes = bytes' ↔ s = t ∧ v.value.Same w.value) := by
  refine ⟨_, _, canonical_eq h s v.value, canonical_eq h t w.value, canonical_bytes_inj h v.keyed, ?_⟩
  rintro ⟨rfl, hsame⟩
  rw [printed_same h v.keyed w.keyed hsame]

section WholeNumbers

def escaped (c : Char) : List UInt8 :=
  if c = '"' ∨ c = '\\' then ['\\'.toUInt8, c.toUInt8] else String.utf8EncodeChar c

def wholePrinter : Printer UInt32 where
  string s := '"'.toUInt8 :: s.toList.flatMap escaped ++ ['"'.toUInt8]
  number n := (Nat.toDigits 10 n.toNat).map Char.toUInt8
  nonFinite _ := none
  ofU32 n := n

lemma escaped_inj {c d : Char} {x y : List UInt8} (h : escaped c ++ x = escaped d ++ y) :
    c = d ∧ x = y := by
  have hslash : String.utf8EncodeChar '\\' = ['\\'.toUInt8] := by decide
  unfold escaped at h
  split at h <;> split at h
  · rename_i hc hd
    simp only [List.cons_append, List.nil_append, List.cons.injEq, true_and] at h
    refine ⟨?_, h.2⟩
    rcases hc with rfl | rfl <;> rcases hd with rfl | rfl <;>
      first | rfl | exact absurd h.1 (by decide)
  · rename_i hc hd
    have heq : String.utf8EncodeChar '\\' ++ c.toUInt8 :: x = String.utf8EncodeChar d ++ y := by
      rw [hslash]
      exact h
    exact absurd (.inr (utf8EncodeChar_prefix_free heq).1.symm) hd
  · rename_i hc hd
    have heq : String.utf8EncodeChar c ++ x = String.utf8EncodeChar '\\' ++ d.toUInt8 :: y := by
      rw [hslash]
      exact h
    exact absurd (.inr (utf8EncodeChar_prefix_free heq).1) hc
  · exact utf8EncodeChar_prefix_free h

lemma escaped_ne_quote (c : Char) (x y : List UInt8) : escaped c ++ x ≠ '"'.toUInt8 :: y := by
  have hquote : String.utf8EncodeChar '"' = ['"'.toUInt8] := by decide
  intro h
  unfold escaped at h
  split at h
  · exact absurd (List.cons.inj h).1 (by decide)
  · rename_i hc
    have heq : String.utf8EncodeChar c ++ x = String.utf8EncodeChar '"' ++ y := by
      rw [hquote]
      exact h
    exact absurd (.inl (utf8EncodeChar_prefix_free heq).1) hc

lemma quoted_inj {u v : List Char} {x y : List UInt8}
    (h : u.flatMap escaped ++ '"'.toUInt8 :: x = v.flatMap escaped ++ '"'.toUInt8 :: y) : u = v := by
  induction u generalizing v with
  | nil =>
    cases v with
    | nil => rfl
    | cons d v =>
      rw [List.flatMap_cons, List.append_assoc] at h
      exact absurd h.symm (escaped_ne_quote d _ _)
  | cons c u ih =>
    cases v with
    | nil =>
      rw [List.flatMap_cons, List.append_assoc] at h
      exact absurd h (escaped_ne_quote c _ _)
    | cons d v =>
      rw [List.flatMap_cons, List.flatMap_cons, List.append_assoc, List.append_assoc] at h
      obtain ⟨rfl, hrest⟩ := escaped_inj h
      rw [ih hrest]

lemma digit_byte {c : Char} (h : c.isDigit) :
    isNumberByte c.toUInt8 ∧ Char.ofNat c.toUInt8.toNat = c := by
  simp only [Char.isDigit, Bool.and_eq_true, decide_eq_true_eq, ge_iff_le,
    UInt32.le_iff_toNat_le] at h
  have hc : c = Char.ofNat c.val.toNat := (Char.ofNat_toNat c).symm
  obtain ⟨hlow, hhigh⟩ := h
  have hlow' : 48 ≤ c.val.toNat := hlow
  have hhigh' : c.val.toNat ≤ 57 := hhigh
  generalize c.val.toNat = n at hc hlow' hhigh'
  subst hc
  interval_cases n <;> decide

lemma wholePrinter_faithful : wholePrinter.Faithful where
  quoted s := ⟨_, rfl⟩
  apart {s t x y} h := by
    simp only [wholePrinter, List.cons_append, List.append_assoc, List.cons.injEq, true_and,
      List.nil_append] at h
    exact String.toList_injective (quoted_inj h)
  numeral n := by
    refine ⟨fun h => Nat.toDigits_ne_nil (List.map_eq_nil_iff.mp h), fun b hb => ?_⟩
    obtain ⟨c, hc, rfl⟩ := List.mem_map.mp hb
    exact (digit_byte (Nat.isDigit_of_mem_toDigits (by decide) (by decide) hc)).1
  number_injective m n h := by
    have hread : ∀ k, ((Nat.toDigits 10 k).map Char.toUInt8).map (fun b => Char.ofNat b.toNat) =
        Nat.toDigits 10 k := by
      intro k
      rw [List.map_map]
      refine (List.map_congr_left fun c hc => ?_).trans (List.map_id _)
      exact (digit_byte (Nat.isDigit_of_mem_toDigits (by decide) (by decide) hc)).2
    have hdigits : Nat.toDigits 10 m.toNat = Nat.toDigits 10 n.toNat := by
      rw [← hread, ← hread n.toNat]
      exact congrArg (List.map fun b => Char.ofNat b.toNat) h
    have hvalue := congrArg (fun digits => Nat.ofDigitChars 10 digits 0) hdigits
    simp only [Nat.ofDigitChars_ten_toDigits] at hvalue
    exact UInt32.toNat_inj.mp hvalue
  ofU32_injective m n h := h
  finite n := rfl

end WholeNumbers

lemma keyed_pair {key key' : String} {v w : Value N} (hne : key ≠ key') (hv : v.Keyed)
    (hw : w.Keyed) : (Value.object [(key, v), (key', w)]).Keyed := by
  refine .object (by simpa using hne) fun k u hu => ?_
  rcases List.mem_cons.mp hu with hu | hu
  · obtain ⟨-, rfl⟩ := Prod.mk.inj hu
    exact hv
  · obtain ⟨-, rfl⟩ := Prod.mk.inj (List.mem_singleton.mp hu)
    exact hw

theorem canonical_bytes_iff_reordered :
    ∃ bytes bytes', canonicalRegistryJsonBytes wholePrinter 1
        (.object [("b", .null), ("a", .number 2)]) = .ok bytes ∧
      canonicalRegistryJsonBytes wholePrinter 1
        (.object [("a", .number 2), ("b", .null)]) = .ok bytes' ∧
      (bytes = bytes' ↔ (1 : UInt32) = 1 ∧ (Value.object [("b", .null), ("a", .number (2 : UInt32))]).Same
        (.object [("a", .number 2), ("b", .null)])) :=
  canonical_bytes_iff wholePrinter wholePrinter_faithful 1 1
    ⟨_, keyed_pair (by decide) .null (.number 2)⟩ ⟨_, keyed_pair (by decide) (.number 2) .null⟩

end Awaken.Contract
