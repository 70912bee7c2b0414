import Awaken.Contract.PinnedRegistry
import Awaken.Contract.VersionedRegistry
import Mathlib.Data.Set.Function

/-! The hash of a registry value and the check of a stored record. The check hashes the stored bytes
only, so it says something about the value where these are the bytes of the value. -/

namespace Awaken.Contract.VersionedRegistry

open Awaken.Lib Awaken.Contract

variable {N J : Type}

def lowerHex (digest : List UInt8) : List Char :=
  digest.flatMap (fun b => [Nat.digitChar (b.toNat / 16), Nat.digitChar (b.toNat % 16)])

def hashText (digest : List UInt8) : String := "sha256:" ++ String.ofList (lowerHex digest)

def registryContentHash (printer : Printer N) (sha256 : List UInt8 → List UInt8)
    (valueSchemaVersion : UInt32) (value : Value N) :
    Except PinnedRegistryHashError (String × List UInt8) := do
  let canonicalJsonBytes ← canonicalRegistryJsonBytes printer valueSchemaVersion value
  return (hashText (sha256 canonicalJsonBytes), canonicalJsonBytes)

def VersionedRecord.verifyContentHash (sha256 : List UInt8 → List UInt8) (self : VersionedRecord J) :
    Except VersionedRegistryError Unit :=
  let actual := hashText (sha256 self.canonicalJsonBytes)
  if actual ≠ self.contentHash then
    .error (.backend (s!"stored content_hash {self.contentHash} does not match recomputed digest " ++
      s!"{actual} for {versionName self.kind self.id self.version}"))
  else .ok ()

lemma digitChar_inj {m n : Nat} (hm : m < 16) (hn : n < 16)
    (h : Nat.digitChar m = Nat.digitChar n) : m = n := by
  have hall : ∀ m < 16, ∀ n < 16, Nat.digitChar m = Nat.digitChar n → m = n := by decide
  exact hall m hm n hn h

lemma lowerHex_injective : Function.Injective lowerHex := by
  intro a b h
  induction a generalizing b with
  | nil =>
    cases b with
    | nil => rfl
    | cons y b => cases h
  | cons x a ih =>
    cases b with
    | nil => cases h
    | cons y b =>
      simp only [lowerHex, List.flatMap_cons, List.cons_append, List.nil_append,
        List.cons.injEq] at h
      have hx := x.toNat_lt
      have hy := y.toNat_lt
      have hhigh := digitChar_inj (by omega) (by omega) h.1
      have hlow := digitChar_inj (by omega) (by omega) h.2.1
      have hbyte : x = y := UInt8.toNat_inj.mp (by omega)
      rw [hbyte, ih h.2.2]

lemma hashText_injective : Function.Injective hashText := by
  intro a b h
  have hchars := congrArg String.toList h
  simp only [hashText, String.toList_append, String.toList_ofList] at hchars
  exact lowerHex_injective (List.append_cancel_left hchars)

lemma verified_iff {sha256 : List UInt8 → List UInt8} {self : VersionedRecord J} :
    self.verifyContentHash sha256 = .ok () ↔
      hashText (sha256 self.canonicalJsonBytes) = self.contentHash := by
  unfold VersionedRecord.verifyContentHash
  constructor
  · intro h
    by_contra hne
    rw [if_pos hne] at h
    cases h
  · intro h
    rw [if_neg (not_not.mpr h)]

section Records

variable (printer : Printer N) (sha256 : List UInt8 → List UInt8)

def valueBytes (self : VersionedRecord (KeyedValue N)) : Except PinnedRegistryHashError (List UInt8) :=
  canonicalRegistryJsonBytes printer (.ofNat self.valueSchemaVersion) self.value.value

def valueHash (self : VersionedRecord (KeyedValue N)) :
    Except PinnedRegistryHashError (String × List UInt8) :=
  registryContentHash printer sha256 (.ofNat self.valueSchemaVersion) self.value.value

/-- The hash of the schema version and the value is the stored hash. -/
def Binds (self : VersionedRecord (KeyedValue N)) : Prop :=
  ∃ bytes, valueHash printer sha256 self = .ok (self.contentHash, bytes)

end Records

variable {printer : Printer N} {sha256 : List UInt8 → List UInt8}

lemma valueBytes_eq (sha256 : List UInt8 → List UInt8) (h : printer.Faithful)
    (self : VersionedRecord (KeyedValue N)) :
    ∃ bytes, valueBytes printer self = .ok bytes ∧
      valueHash printer sha256 self = .ok (hashText (sha256 bytes), bytes) := by
  refine ⟨_, canonical_eq h _ _, ?_⟩
  rw [valueHash, registryContentHash, canonical_eq h]
  rfl

lemma binds_iff (h : printer.Faithful) {met : Set (List UInt8)} (hfree : Set.InjOn sha256 met)
    {self : VersionedRecord (KeyedValue N)} (hverified : self.verifyContentHash sha256 = .ok ())
    (hstored : self.canonicalJsonBytes ∈ met)
    (hvalue : ∀ bytes, valueBytes printer self = .ok bytes → bytes ∈ met) :
    Binds printer sha256 self ↔ valueBytes printer self = .ok self.canonicalJsonBytes := by
  obtain ⟨bytes, hbytes, hhash⟩ := valueBytes_eq sha256 h self
  rw [Binds, hhash, hbytes]
  constructor
  · rintro ⟨bytes', heq⟩
    have htext := (Prod.mk.inj (Except.ok.inj heq)).1
    rw [← (verified_iff).mp hverified] at htext
    rw [hfree (hvalue bytes hbytes) hstored (hashText_injective htext)]
  · intro heq
    obtain rfl := Except.ok.inj heq
    exact ⟨_, by rw [(verified_iff).mp hverified]⟩

lemma same_of_bytes (h : printer.Faithful) {self other : VersionedRecord (KeyedValue N)}
    (hself : valueBytes printer self = .ok self.canonicalJsonBytes)
    (hother : valueBytes printer other = .ok other.canonicalJsonBytes)
    (hbytes : self.canonicalJsonBytes = other.canonicalJsonBytes) :
    self.value.value.Same other.value.value := by
  rw [valueBytes, canonical_eq h] at hself hother
  rw [← Except.ok.inj hself, ← Except.ok.inj hother] at hbytes
  exact (canonical_bytes_inj h self.value.keyed hbytes).2

/-- `met` holds the byte strings among which no two have one digest. -/
theorem verified_hash_binds_value (printer : Printer N) (h : printer.Faithful)
    (sha256 : List UInt8 → List UInt8) (met : Set (List UInt8)) (hfree : Set.InjOn sha256 met)
    (self : VersionedRecord (KeyedValue N)) (hverified : self.verifyContentHash sha256 = .ok ())
    (hstored : self.canonicalJsonBytes ∈ met)
    (hvalue : ∀ bytes, valueBytes printer self = .ok bytes → bytes ∈ met) :
    (Binds printer sha256 self ↔ valueBytes printer self = .ok self.canonicalJsonBytes) ∧
      (valueBytes printer self = .ok self.canonicalJsonBytes →
        ∀ other : VersionedRecord (KeyedValue N), other.verifyContentHash sha256 = .ok () →
          other.canonicalJsonBytes ∈ met →
          valueBytes printer other = .ok other.canonicalJsonBytes →
          other.contentHash = self.contentHash →
          self.value.value.Same other.value.value) := by
  refine ⟨binds_iff h hfree hverified hstored hvalue, ?_⟩
  intro hself other hother hmet hbytes hhash
  rw [← (verified_iff).mp hverified, ← (verified_iff).mp hother] at hhash
  exact same_of_bytes h hself hbytes (hfree hstored hmet (hashText_injective hhash.symm))

section Tampered

def nullDigest : List UInt8 :=
  [117, 196, 87, 133, 39, 66, 41, 183, 125, 186, 4, 184, 163, 76, 131, 73, 239, 186, 161, 72, 161,
    157, 2, 85, 199, 96, 118, 93, 5, 233, 115, 98]

def trueDigest : List UInt8 :=
  [112, 97, 85, 62, 192, 237, 35, 180, 255, 245, 228, 20, 192, 34, 69, 238, 242, 50, 130, 28, 52,
    220, 139, 35, 235, 190, 174, 202, 23, 6, 13, 184]

def nullBytes : List UInt8 := ascii "\x7b\"value\":null,\"value_schema_version\":1\x7d"

def trueBytes : List UInt8 := ascii "\x7b\"value\":true,\"value_schema_version\":1\x7d"

def knownDigest (bytes : List UInt8) : List UInt8 :=
  if bytes = nullBytes then nullDigest else trueDigest

def storedRecord (value : KeyedValue UInt32) : VersionedRecord (KeyedValue UInt32) :=
  ⟨"agent", "a1", 1, hashText nullDigest, 1, value, nullBytes, 0, ⟨.null, .null⟩⟩

lemma storedRecord_verified (value : KeyedValue UInt32) :
    (storedRecord value).verifyContentHash knownDigest = .ok () :=
  (verified_iff).mpr rfl

lemma knownDigest_injOn : Set.InjOn knownDigest ({nullBytes, trueBytes} : Set (List UInt8)) := by
  have hnull : knownDigest nullBytes = nullDigest := if_pos rfl
  have htrue : knownDigest trueBytes = trueDigest := if_neg (by decide)
  have hne : nullDigest ≠ trueDigest := by decide
  rintro a (rfl | rfl) b (rfl | rfl) h
  · rfl
  · rw [hnull, htrue] at h
    exact absurd h hne
  · rw [hnull, htrue] at h
    exact absurd h.symm hne
  · rfl

theorem verified_hash_binds_value_null : Binds wholePrinter knownDigest (storedRecord ⟨.null, .null⟩) :=
  (verified_hash_binds_value wholePrinter wholePrinter_faithful knownDigest {nullBytes, trueBytes}
    knownDigest_injOn (storedRecord ⟨.null, .null⟩) (storedRecord_verified _) (.inl rfl)
    (fun _ h => .inl (Except.ok.inj h).symm)).1.mpr rfl

theorem rewritten_value_verifies :
    (storedRecord ⟨.bool true, .bool true⟩).verifyContentHash knownDigest = .ok () ∧
      (storedRecord ⟨.null, .null⟩).verifyContentHash knownDigest = .ok () ∧
      Set.InjOn knownDigest ({nullBytes, trueBytes} : Set (List UInt8)) ∧
      ¬Binds wholePrinter knownDigest (storedRecord ⟨.bool true, .bool true⟩) ∧
      ¬(Value.bool true).Same (Value.null : Value UInt32) := by
  refine ⟨storedRecord_verified _, storedRecord_verified _, knownDigest_injOn, ?_, fun h => by cases h⟩
  rintro ⟨bytes, h⟩
  have hprinted : valueBytes wholePrinter (storedRecord ⟨.bool true, .bool true⟩) =
      .ok trueBytes := by decide
  obtain ⟨bytes', hbytes, hhash⟩ := valueBytes_eq knownDigest wholePrinter_faithful
    (storedRecord ⟨.bool true, .bool true⟩)
  obtain rfl := Except.ok.inj (hprinted.symm.trans hbytes)
  rw [h] at hhash
  have hdigest := hashText_injective (Prod.mk.inj (Except.ok.inj hhash)).1
  exact absurd hdigest (by decide)

end Tampered

end Awaken.Contract.VersionedRegistry
