import Awaken.State.Plugin

namespace Awaken.State

open Awaken.Lib

variable {J κ : Type} [DecidableEq κ] {K : κ → StateKey J}

structure PersistedState (J : Type) where
  revision : Nat
  extensions : Table String J

section Export

def exportKey (reg : KeyRegistration κ) (map : StateMap K) : Except StateError (Option J) :=
  match map reg.typeId with
  | some value => ((K reg.typeId).codec.encode value).map some
  | none => .ok none

def encodeError (reg : KeyRegistration κ) : StateError → StateError
  | .keyEncode key message => .keyEncode key message
  | other => .keyEncode reg.key other.display

def exported (wanted : KeyScope → Bool) (reg : KeyRegistration κ) : Bool :=
  reg.options.persistent && wanted reg.scope

def exportInto (map : StateMap K) (wanted : KeyScope → Bool) (extensions : Table String J)
    (reg : KeyRegistration κ) : Except StateError (Table String J) :=
  if exported wanted reg then
    match exportKey reg map with
    | .error e => .error (encodeError reg e)
    | .ok (some json) => .ok (extensions.insert reg.key json)
    | .ok none => .ok extensions
  else .ok extensions

def StateStore.exportFiltered (self : StateStore K) (wanted : KeyScope → Bool) :
    Except StateError (PersistedState J) := do
  let extensions ←
    self.registry.keysByType.values.foldlM (exportInto self.inner.ext wanted) .empty
  return ⟨self.inner.revision, extensions⟩

def StateStore.exportPersisted (self : StateStore K) : Except StateError (PersistedState J) :=
  self.exportFiltered (fun _ => true)

def StateStore.exportThreadScoped (self : StateStore K) : Except StateError (PersistedState J) :=
  self.exportFiltered (fun scope => scope = .thread)

end Export

section Import

def importKey (reg : KeyRegistration κ) (map : StateMap K) (json : J) :
    Except StateError (StateMap K) := do
  let value ← (K reg.typeId).codec.decode json
  return map.insert reg.typeId value

def decodeError (reg : KeyRegistration κ) : StateError → StateError
  | .keyDecode key message => .keyDecode key message
  | other => .keyDecode reg.key other.display

/-- One turn of the loop that the three restores share; `wanted` is the scope check of
`restore_thread_scoped`, which the other two do not make. -/
def importEntry (registry : PluginRegistry κ) (policy : UnknownKeyPolicy)
    (wanted : KeyScope → Bool) (map : StateMap K) (entry : String × J) :
    Except StateError (StateMap K) :=
  match registry.keysByName.get entry.1 with
  | none =>
    match policy with
    | .error => .error (.unknownKey entry.1)
    | .skip => .ok map
  | some reg =>
    if wanted reg.scope then (importKey reg map entry.2).mapError (decodeError reg) else .ok map

/-- The loop, with the map it has written when it ends. -/
def importEntries (registry : PluginRegistry κ) (policy : UnknownKeyPolicy)
    (wanted : KeyScope → Bool) :
    List (String × J) → StateMap K → Except StateError Unit × StateMap K
  | [], map => (.ok (), map)
  | entry :: entries, map =>
    match importEntry registry policy wanted map entry with
    | .error e => (.error e, map)
    | .ok map => importEntries registry policy wanted entries map

variable (self : StateStore K)

def StateStore.restorePersisted (persisted : PersistedState J) (policy : UnknownKeyPolicy) :
    Except StateError Unit × StateStore K :=
  match importEntries self.registry policy (fun _ => true) persisted.extensions.entries .empty with
  | (.error e, _) => (.error e, self)
  | (.ok (), nextExt) => (.ok (), { self with inner := ⟨persisted.revision, nextExt⟩ })

def StateStore.restoreThreadScoped (persisted : PersistedState J) (policy : UnknownKeyPolicy) :
    Except StateError Unit × StateStore K :=
  match importEntries self.registry policy (fun scope => scope = .thread)
      persisted.extensions.entries self.inner.ext with
  | (result, ext) => (result, { self with inner := { self.inner with ext := ext } })

def StateStore.applySeed (persisted : PersistedState J) (policy : UnknownKeyPolicy) :
    Except StateError Unit × StateStore K :=
  match importEntries self.registry policy (fun _ => true) persisted.extensions.entries
      self.inner.ext with
  | (.error e, _) => (.error e, self)
  | (.ok (), nextExt) => (.ok (), { self with inner := { self.inner with ext := nextExt } })

end Import

section Entries

variable {registry : PluginRegistry κ} {policy : UnknownKeyPolicy} {wanted : KeyScope → Bool}
  {map map' : StateMap K} {entry : String × J} {entries : List (String × J)}

def target (registry : PluginRegistry κ) (wanted : KeyScope → Bool) (key : String) :
    Option (KeyRegistration κ) :=
  (registry.keysByName.get key).filter (fun reg => wanted reg.scope)

lemma importEntry_of_target {reg : KeyRegistration κ}
    (h : target registry wanted entry.1 = some reg) :
    importEntry registry policy wanted map entry =
      (importKey reg map entry.2).mapError (decodeError reg) := by
  obtain ⟨hget, hw⟩ := Option.filter_eq_some_iff.mp h
  simp only [importEntry, hget, hw, if_true]

lemma importEntry_of_none (policy : UnknownKeyPolicy) (map : StateMap K)
    (h : target registry wanted entry.1 = none) :
    importEntry registry policy wanted map entry = .ok map ∨
      ∃ e, importEntry registry policy wanted map entry = .error e := by
  unfold importEntry
  cases hget : registry.keysByName.get entry.1 with
  | none =>
    cases policy with
    | error => exact .inr ⟨_, rfl⟩
    | skip => exact .inl rfl
  | some reg =>
    have hw : wanted reg.scope = false := by
      simpa [target, hget, Option.filter_eq_none_iff] using h
    simp only [hw, Bool.false_eq_true, if_false]
    exact .inl trivial

lemma importEntry_ok (h : importEntry registry policy wanted map entry = .ok map') :
    (target registry wanted entry.1 = none ∧ map' = map) ∨
      ∃ reg value, target registry wanted entry.1 = some reg ∧
        (K reg.typeId).codec.decode entry.2 = .ok value ∧ map' = map.insert reg.typeId value := by
  cases ht : target registry wanted entry.1 with
  | none =>
    rcases importEntry_of_none policy map ht with hok | ⟨e, he⟩
    · exact .inl ⟨rfl, (Except.ok.inj (hok.symm.trans h)).symm⟩
    · exact nomatch he.symm.trans h
  | some reg =>
    rw [importEntry_of_target ht] at h
    unfold importKey at h
    cases hd : (K reg.typeId).codec.decode entry.2 with
    | error e =>
      rw [hd] at h
      exact nomatch h
    | ok value =>
      rw [hd] at h
      exact .inr ⟨reg, value, rfl, hd, (Except.ok.inj h).symm⟩

lemma insert_of_ne {k j : κ} (h : j ≠ k) (value : (K k).Value) :
    map.insert k value j = map j :=
  Function.update_of_ne h _ _

theorem importEntries_frame {result : Except StateError Unit} (k : κ)
    (h : importEntries registry policy wanted entries map = (result, map'))
    (hk : ∀ entry ∈ entries, ∀ reg, target registry wanted entry.1 = some reg → reg.typeId ≠ k) :
    map' k = map k := by
  induction entries generalizing map with
  | nil => rw [(Prod.mk.inj h).2]
  | cons entry entries ih =>
    obtain ⟨hhead, hrest⟩ := List.forall_mem_cons.mp hk
    unfold importEntries at h
    cases hi : importEntry registry policy wanted map entry with
    | error e =>
      rw [hi] at h
      rw [(Prod.mk.inj h).2]
    | ok map₁ =>
      rw [hi] at h
      rw [ih h hrest]
      rcases importEntry_ok hi with ⟨-, rfl⟩ | ⟨reg, value, ht, -, rfl⟩
      · rfl
      · exact insert_of_ne (hhead reg ht).symm value

theorem importEntries_read (hc : registry.Coherent K) (hn : (entries.map Prod.fst).Nodup)
    (h : importEntries registry policy wanted entries map = (.ok (), map')) {key : String}
    {json : J} {reg : KeyRegistration κ} (hm : (key, json) ∈ entries)
    (ht : target registry wanted key = some reg) :
    ∃ value, (K reg.typeId).codec.decode json = .ok value ∧ map' reg.typeId = some value := by
  induction entries generalizing map with
  | nil => exact nomatch hm
  | cons first entries ih =>
    obtain ⟨hhead, hn⟩ := List.nodup_cons.mp hn
    unfold importEntries at h
    cases hi : importEntry registry policy wanted map first with
    | error e =>
      rw [hi] at h
      exact nomatch (Prod.mk.inj h).1
    | ok map₁ =>
      rw [hi] at h
      rcases List.mem_cons.mp hm with hfirst | hrest
      · subst hfirst
        rcases importEntry_ok hi with ⟨hnone, -⟩ | ⟨reg', value, ht', hd, rfl⟩
        · exact nomatch ht.symm.trans hnone
        · obtain rfl := Option.some.inj (ht.symm.trans ht')
          refine ⟨value, hd, ?_⟩
          rw [importEntries_frame reg.typeId h]
          · exact Function.update_self _ _ _
          · intro other hother reg' hr' htype
            have hname := hc.name_inj (Option.filter_eq_some_iff.mp hr').1
              (Option.filter_eq_some_iff.mp ht).1 htype
            exact hhead (List.mem_map.mpr ⟨other, hother, hname⟩)
      · exact ih hn h hrest

end Entries

section RoundTrip

variable {store store' : StateStore K} {persisted : PersistedState J} {k : κ}
  {policy : UnknownKeyPolicy}

def Codec.RoundTrips {V : Type} (codec : Codec J V) : Prop :=
  ∀ value json, codec.encode value = .ok json → codec.decode json = .ok value

omit [DecidableEq κ] in
lemma exportInto_ok {map : StateMap K} {wanted : KeyScope → Bool} {ext ext' : Table String J}
    {reg : KeyRegistration κ} (h : exportInto map wanted ext reg = .ok ext') :
    (∀ key, key ≠ reg.key → ext'.get key = ext.get key) ∧
      (exported wanted reg = true → ∀ value, map reg.typeId = some value →
        ∃ json, (K reg.typeId).codec.encode value = .ok json ∧ ext'.get reg.key = some json) ∧
      (map reg.typeId = none → ext' = ext) := by
  unfold exportInto at h
  cases hw : exported wanted reg with
  | false =>
    simp only [hw, Bool.false_eq_true, if_false] at h
    obtain rfl := Except.ok.inj h
    exact ⟨fun _ _ => rfl, nofun, fun _ => rfl⟩
  | true =>
    simp only [hw, if_true] at h
    unfold exportKey at h
    cases hm : map reg.typeId with
    | none =>
      simp only [hm] at h
      obtain rfl := Except.ok.inj h
      exact ⟨fun _ _ => rfl, fun _ _ hv => (nomatch hv), fun _ => rfl⟩
    | some value =>
      simp only [hm] at h
      cases he : (K reg.typeId).codec.encode value with
      | error e =>
        simp only [he] at h
        exact nomatch h
      | ok json =>
        simp only [he] at h
        obtain rfl := Except.ok.inj h
        refine ⟨fun key hk => ?_, fun _ v hv => ⟨json, ?_, ?_⟩, fun hnone => (nomatch hnone)⟩
        · rw [Table.get_insert, if_neg hk]
        · rw [← Option.some.inj hv, he]
        · rw [Table.get_insert, if_pos rfl]

omit [DecidableEq κ] in
lemma exportAll_get {map : StateMap K} {wanted : KeyScope → Bool} {ext ext' : Table String J}
    {regs : List (KeyRegistration κ)} (hd : (regs.map (·.key)).Nodup)
    (h : regs.foldlM (exportInto map wanted) ext = .ok ext') :
    (∀ key, key ∉ regs.map (·.key) → ext'.get key = ext.get key) ∧
      ∀ reg ∈ regs, ext.get reg.key = none → exported wanted reg = true →
        (∀ value, map reg.typeId = some value →
          ∃ json, (K reg.typeId).codec.encode value = .ok json ∧ ext'.get reg.key = some json) ∧
        (map reg.typeId = none → ext'.get reg.key = none) := by
  induction regs generalizing ext with
  | nil =>
    obtain rfl := Except.ok.inj h
    exact ⟨fun _ _ => rfl, by simp⟩
  | cons reg regs ih =>
    obtain ⟨hhead, hd⟩ := List.nodup_cons.mp hd
    rw [List.foldlM_cons] at h
    cases hi : exportInto map wanted ext reg with
    | error e =>
      rw [hi] at h
      cases h
    | ok ext₁ =>
      rw [hi] at h
      obtain ⟨hother, hsome, hnone⟩ := exportInto_ok hi
      obtain ⟨hframe, hall⟩ := ih hd h
      refine ⟨fun key hk => ?_, List.forall_mem_cons.mpr ⟨fun hfresh hw => ⟨?_, ?_⟩, ?_⟩⟩
      · rw [List.map_cons, List.mem_cons, not_or] at hk
        rw [hframe key hk.2, hother key hk.1]
      · intro value hv
        rw [hframe reg.key hhead]
        exact hsome hw value hv
      · intro hv
        rw [hframe reg.key hhead, hnone hv, hfresh]
      · intro r hr hfresh hw
        have hne : r.key ≠ reg.key := fun heq => hhead (List.mem_map.mpr ⟨r, hr, heq⟩)
        exact hall r hr (by rw [hother r.key hne, hfresh]) hw

lemma PluginRegistry.Coherent.names_nodup {registry : PluginRegistry κ} (h : registry.Coherent K) :
    (registry.keysByType.values.map (·.key)).Nodup := by
  rw [Table.values, List.map_map]
  refine (List.nodup_map_iff_inj_on (List.Nodup.of_map _ registry.keysByType.nodup)).mpr ?_
  intro e he f hf hef
  have h₁ := h.byType _ _ (Table.get_eq_some.mpr he)
  have h₂ := h.byType _ _ (Table.get_eq_some.mpr hf)
  have hkey : e.2.key = f.2.key := hef
  have hreg : e.2 = f.2 := Option.some.inj (by rw [← h₁.2.2, ← h₂.2.2, hkey])
  exact Prod.ext (by rw [← h₁.1, ← h₂.1, hreg]) hreg

lemma exportFiltered_get {wanted : KeyScope → Bool} (hc : store.registry.Coherent K)
    (hp : store.exportFiltered wanted = .ok persisted)
    {reg : KeyRegistration κ} (hreg : store.registry.keysByType.get reg.typeId = some reg)
    (hw : exported wanted reg = true) :
    (∀ value, store.inner.ext reg.typeId = some value →
      ∃ json, (K reg.typeId).codec.encode value = .ok json ∧
        persisted.extensions.get reg.key = some json) ∧
      (store.inner.ext reg.typeId = none → persisted.extensions.get reg.key = none) := by
  unfold StateStore.exportFiltered at hp
  cases hf : store.registry.keysByType.values.foldlM
      (exportInto store.inner.ext wanted) .empty with
  | error e =>
    rw [hf] at hp
    exact nomatch hp
  | ok ext =>
    rw [hf] at hp
    obtain rfl := Except.ok.inj hp
    have hmem : reg ∈ store.registry.keysByType.values := Table.mem_values.mpr ⟨_, hreg⟩
    exact (exportAll_get hc.names_nodup hf).2 reg hmem rfl hw

lemma export_get (hc : store.registry.Coherent K) (hp : store.exportPersisted = .ok persisted)
    {reg : KeyRegistration κ} (hreg : store.registry.keysByType.get reg.typeId = some reg)
    (hpersist : reg.options.persistent = true) :
    (∀ value, store.inner.ext reg.typeId = some value →
      ∃ json, (K reg.typeId).codec.encode value = .ok json ∧
        persisted.extensions.get reg.key = some json) ∧
      (store.inner.ext reg.typeId = none → persisted.extensions.get reg.key = none) :=
  exportFiltered_get hc hp hreg (by rw [exported, hpersist]; rfl)

theorem restore_export (hc : store.registry.Coherent K) (hc' : store'.registry.Coherent K)
    (hp : store.exportPersisted = .ok persisted)
    (hr : (store'.restorePersisted persisted policy).1 = .ok ()) {reg reg' : KeyRegistration κ}
    (hreg : store.registry.keysByType.get k = some reg) (hpersist : reg.options.persistent = true)
    (hreg' : store'.registry.keysByType.get k = some reg') (hrt : (K k).codec.RoundTrips) :
    (store'.restorePersisted persisted policy).2.read k = store.read k := by
  obtain ⟨rfl, hb, -⟩ := hc.byType k reg hreg
  obtain ⟨htype, hb', hname'⟩ := hc'.byType _ reg' hreg'
  have hkey : reg'.key = reg.key := by rw [hb'.key, hb.key, htype]
  unfold StateStore.restorePersisted at hr ⊢
  cases hi : importEntries store'.registry policy (fun _ => true) persisted.extensions.entries
      (StateMap.empty : StateMap K) with
  | mk result ext =>
    rw [hi] at hr
    cases result with
    | error e => exact nomatch hr
    | ok u =>
      change ext reg.typeId = store.inner.ext reg.typeId
      have hget := export_get hc hp hreg hpersist
      have htarget : target store'.registry (fun _ => true) reg.key = some reg' := by
        rw [target, ← hkey, hname', Option.filter_some_pos rfl]
      cases hv : store.inner.ext reg.typeId with
      | none =>
        rw [importEntries_frame reg.typeId hi]
        · rfl
        · intro entry hentry other hother hk
          have hsame := hc'.name_inj (Option.filter_eq_some_iff.mp hother).1 hname'
            (hk.trans htype.symm)
          have habsent := hget.2 hv
          rw [← hkey, ← hsame, Table.get_eq_none] at habsent
          exact habsent (List.mem_map_of_mem hentry)
      | some value =>
        obtain ⟨json, he, hj⟩ := hget.1 value hv
        obtain ⟨value', hd, hread⟩ := importEntries_read hc' persisted.extensions.nodup hi
          (Table.get_eq_some.mp hj) htarget
        have hdecode := hrt value json he
        obtain ⟨typeId, name, options, strategy, scope⟩ := reg'
        obtain rfl : typeId = reg.typeId := htype
        rw [hread, Except.ok.inj (hd.symm.trans hdecode)]

theorem restoreThreadScoped_export (hc : store.registry.Coherent K)
    (hc' : store'.registry.Coherent K) (hp : store.exportThreadScoped = .ok persisted)
    (hr : (store'.restoreThreadScoped persisted policy).1 = .ok ()) {reg reg' : KeyRegistration κ}
    (hreg : store.registry.keysByType.get k = some reg) (hpersist : reg.options.persistent = true)
    (hscope : reg.scope = .thread) (hreg' : store'.registry.keysByType.get k = some reg')
    (hscope' : reg'.scope = .thread) (hunset : store'.read k = none)
    (hrt : (K k).codec.RoundTrips) :
    (store'.restoreThreadScoped persisted policy).2.read k = store.read k := by
  obtain ⟨rfl, hb, -⟩ := hc.byType k reg hreg
  obtain ⟨htype, hb', hname'⟩ := hc'.byType _ reg' hreg'
  have hkey : reg'.key = reg.key := by rw [hb'.key, hb.key, htype]
  unfold StateStore.restoreThreadScoped at hr ⊢
  cases hi : importEntries store'.registry policy (fun scope => decide (scope = .thread))
      persisted.extensions.entries store'.inner.ext with
  | mk result ext =>
    rw [hi] at hr
    cases result with
    | error e => exact nomatch hr
    | ok u =>
      change ext reg.typeId = store.inner.ext reg.typeId
      have hget := exportFiltered_get hc hp hreg (by simp [exported, hpersist, hscope])
      have htarget : target store'.registry (fun scope => decide (scope = .thread)) reg.key =
          some reg' := by
        rw [target, ← hkey, hname', Option.filter_some_pos (by simp [hscope'])]
      cases hv : store.inner.ext reg.typeId with
      | none =>
        rw [importEntries_frame reg.typeId hi]
        · exact hunset
        · intro entry hentry other hother hk
          have hsame := hc'.name_inj (Option.filter_eq_some_iff.mp hother).1 hname'
            (hk.trans htype.symm)
          have habsent := hget.2 hv
          rw [← hkey, ← hsame, Table.get_eq_none] at habsent
          exact habsent (List.mem_map_of_mem hentry)
      | some value =>
        obtain ⟨json, he, hj⟩ := hget.1 value hv
        obtain ⟨value', hd, hread⟩ := importEntries_read hc' persisted.extensions.nodup hi
          (Table.get_eq_some.mp hj) htarget
        have hdecode := hrt value json he
        obtain ⟨typeId, name, options, strategy, scope⟩ := reg'
        obtain rfl : typeId = reg.typeId := htype
        rw [hread, Except.ok.inj (hd.symm.trans hdecode)]

end RoundTrip

end Awaken.State
