import Mathlib.Data.List.Sort
import Mathlib.Logic.Relation

/-! Depth-first expansion of a graph whose nodes carry keys. A node is accepted after the nodes it
expands to, in a map sorted by key, and a node that is met again on its own path is refused. -/

namespace Awaken.Lib.DepthFirst

open Relation

structure Graph (E K N X : Type) where
  key : E → K
  name : E → N
  expand : E → Except X (List E)
  conflict : E → X
  cycle : List N → E → X
  named : List N
  named_of_expand : ∀ e ds, expand e = .ok ds → name e ∈ named
  key_of_name : ∀ e e', name e = name e' → key e = key e'

variable {E K N X : Type} [LinearOrder K] [DecidableEq N]

def insertSorted (key : E → K) (e : E) : List E → List E
  | [] => [e]
  | a :: as =>
    if key e < key a then e :: a :: as
    else if key e = key a then e :: as
    else a :: insertSorted key e as

namespace Graph

variable (g : Graph E K N X)

def lookup (accepted : List E) (e : E) : Option E := accepted.find? (g.key · = g.key e)

def fresh (path : List N) : List N := g.named.filter (· ∉ path)

omit [LinearOrder K] in
lemma fresh_append_lt {path : List N} {n : N} (hn : n ∈ g.named) (hpath : n ∉ path) :
    (g.fresh (path ++ [n])).length < (g.fresh path).length := by
  have hsplit : g.fresh (path ++ [n]) = (g.fresh path).filter (· ≠ n) := by
    rw [fresh, fresh, List.filter_filter]
    refine List.filter_congr (fun m _ => ?_)
    simp [not_or, and_comm]
  rw [hsplit]
  refine List.length_filter_lt_length_iff_exists.mpr ⟨n, ?_, by simp⟩
  simp [fresh, hn, hpath]

variable [DecidableEq E]

mutual

def visit (path : List N) (accepted : List E) (e : E) : Except X (List E) :=
  match g.lookup accepted e with
  | some existing => if existing = e then .ok accepted else .error (g.conflict e)
  | none =>
    if _hpath : g.name e ∈ path then .error (g.cycle path e)
    else
      match _hexpand : g.expand e with
      | .error error => .error error
      | .ok ds =>
        match visitAll (path ++ [g.name e]) accepted ds with
        | .error error => .error error
        | .ok accepted => .ok (insertSorted g.key e accepted)
termination_by ((g.fresh path).length, 0)
decreasing_by
  exact Prod.Lex.left _ _ (g.fresh_append_lt (g.named_of_expand e ds _hexpand) _hpath)

def visitAll (path : List N) (accepted : List E) (es : List E) : Except X (List E) :=
  match es with
  | [] => .ok accepted
  | e :: es =>
    match visit path accepted e with
    | .error error => .error error
    | .ok accepted => visitAll path accepted es
termination_by ((g.fresh path).length, es.length + 1)

end

lemma visit_ok {path : List N} {accepted out : List E} {e : E} :
    g.visit path accepted e = .ok out ↔ (g.lookup accepted e = some e ∧ out = accepted) ∨
      (g.lookup accepted e = none ∧ g.name e ∉ path ∧ ∃ ds next, g.expand e = .ok ds ∧
        g.visitAll (path ++ [g.name e]) accepted ds = .ok next ∧
        out = insertSorted g.key e next) := by
  rw [visit]
  cases g.lookup accepted e with
  | some existing =>
    by_cases h : existing = e
    · simp [h, eq_comm]
    · simp [h]
  | none =>
    by_cases hpath : g.name e ∈ path
    · simp [hpath]
    · cases hexpand : g.expand e with
      | error error => simp [hpath]
      | ok ds =>
        cases hall : g.visitAll (path ++ [g.name e]) accepted ds <;>
          simp [hpath, hall, eq_comm]

lemma visitAll_nil {path : List N} {accepted : List E} :
    g.visitAll path accepted [] = .ok accepted := by
  rw [visitAll]

lemma visitAll_cons {path : List N} {accepted out : List E} {e : E} {es : List E} :
    g.visitAll path accepted (e :: es) = .ok out ↔
      ∃ next, g.visit path accepted e = .ok next ∧ g.visitAll path next es = .ok out := by
  rw [visitAll]
  cases g.visit path accepted e <;> simp

omit [LinearOrder K] [DecidableEq E] in
lemma path_induction {motive : List N → Prop}
    (h : ∀ path, (∀ n ∈ g.named, n ∉ path → motive (path ++ [n])) → motive path)
    (path : List N) : motive path := by
  induction hsize : (g.fresh path).length using Nat.strong_induction_on generalizing path with
  | h size ih =>
    refine h path (fun n hn hpath => ih _ ?_ _ rfl)
    rw [← hsize]
    exact g.fresh_append_lt hn hpath

end Graph

section Sorted

variable {key : E → K} {e : E} {as : List E}

lemma mem_insertSorted (hnew : ∀ a ∈ as, key a ≠ key e) {b : E} :
    b ∈ insertSorted key e as ↔ b = e ∨ b ∈ as := by
  induction as with
  | nil => simp [insertSorted]
  | cons a as ih =>
    have hne : key e ≠ key a := (hnew a List.mem_cons_self).symm
    rw [insertSorted, if_neg hne]
    split
    · rw [List.mem_cons]
    · rw [List.mem_cons, ih (fun c hc => hnew c (List.mem_cons_of_mem _ hc)), List.mem_cons]
      exact or_left_comm

lemma pairwise_insertSorted (hnew : ∀ a ∈ as, key a ≠ key e)
    (h : as.Pairwise (key · < key ·)) : (insertSorted key e as).Pairwise (key · < key ·) := by
  induction as with
  | nil => exact List.pairwise_singleton _ _
  | cons a as ih =>
    have hne : key e ≠ key a := (hnew a List.mem_cons_self).symm
    have htail : ∀ c ∈ as, key c ≠ key e := fun c hc => hnew c (List.mem_cons_of_mem _ hc)
    have hfirst := (List.pairwise_cons.mp h).1
    rw [insertSorted, if_neg hne]
    split
    · next hlt =>
      refine List.pairwise_cons.mpr ⟨fun c hc => ?_, h⟩
      cases List.mem_cons.mp hc with
      | inl hca => exact hca ▸ hlt
      | inr hc => exact hlt.trans (hfirst c hc)
    · next hlt =>
      refine List.pairwise_cons.mpr ⟨fun c hc => ?_, ih htail (List.pairwise_cons.mp h).2⟩
      cases ((mem_insertSorted htail).mp hc) with
      | inl hce => exact hce ▸ lt_of_le_of_ne (not_lt.mp hlt) hne.symm
      | inr hc => exact hfirst c hc

lemma eq_of_sorted {as bs : List E} (ha : as.Pairwise (key · < key ·))
    (hb : bs.Pairwise (key · < key ·)) (hmem : ∀ e, e ∈ as ↔ e ∈ bs) : as = bs := by
  have hnodup : ∀ {es : List E}, es.Pairwise (key · < key ·) → es.Nodup :=
    fun h => h.imp (fun hlt heq => absurd hlt (by simp [heq]))
  refine List.Perm.eq_of_pairwise (fun a b _ _ hab hba => absurd hba hab.not_gt) ha hb ?_
  exact (List.perm_ext_iff_of_nodup (hnodup ha) (hnodup hb)).mpr hmem

end Sorted

namespace Graph

variable (g : Graph E K N X)

def Expands (e d : E) : Prop := ∃ ds, g.expand e = .ok ds ∧ d ∈ ds

def Reached (roots : List E) (e : E) : Prop := ∃ root ∈ roots, ReflTransGen g.Expands root e

/-- One node for each key is reached. -/
def Coherent (roots : List E) : Prop :=
  ∀ e e', g.Reached roots e → g.Reached roots e' → g.key e = g.key e' → e = e'

structure Expandable (roots : List E) : Prop where
  expands : ∀ e, g.Reached roots e → ∃ ds, g.expand e = .ok ds
  acyclic : ∀ e, g.Reached roots e → ¬ TransGen g.Expands e e

/-- The nodes are sorted by key, with all that they expand to, and without cycles. -/
structure Settled (accepted : List E) : Prop where
  sorted : accepted.Pairwise (g.key · < g.key ·)
  expands : ∀ e ∈ accepted, ∃ ds, g.expand e = .ok ds ∧ ∀ d ∈ ds, d ∈ accepted
  acyclic : ∀ e ∈ accepted, ¬ TransGen g.Expands e e

variable {g} {roots : List E}

omit [LinearOrder K] [DecidableEq N] in
lemma Reached.expand {e d : E} (he : g.Reached roots e) (hd : g.Expands e d) :
    g.Reached roots d := by
  obtain ⟨root, hroot, hpath⟩ := he
  exact ⟨root, hroot, hpath.tail hd⟩

omit [DecidableEq N] in
lemma lookup_eq_some {accepted : List E} {e a : E} (h : g.lookup accepted e = some a) :
    a ∈ accepted ∧ g.key a = g.key e :=
  ⟨List.mem_of_find?_eq_some h, by simpa using List.find?_some h⟩

omit [DecidableEq N] in
lemma lookup_eq_none {accepted : List E} {e : E} :
    g.lookup accepted e = none ↔ ∀ a ∈ accepted, g.key a ≠ g.key e := by
  simp [lookup]

omit [DecidableEq N] in
lemma Settled.closed {accepted : List E} (h : g.Settled accepted) {e d : E} (he : e ∈ accepted)
    (hd : ReflTransGen g.Expands e d) : d ∈ accepted := by
  induction hd with
  | refl => exact he
  | tail _ hd ih =>
    obtain ⟨ds, hds, hmem⟩ := hd
    obtain ⟨ds', hds', hall⟩ := h.expands _ ih
    obtain rfl := Except.ok.inj (hds.symm.trans hds')
    exact hall _ hmem

omit [DecidableEq N] in
lemma Settled.insert {accepted : List E} (h : g.Settled accepted) {e : E} {ds : List E}
    (hds : g.expand e = .ok ds) (hall : ∀ d ∈ ds, d ∈ accepted)
    (hnew : ∀ a ∈ accepted, g.key a ≠ g.key e) : g.Settled (insertSorted g.key e accepted) where
  sorted := pairwise_insertSorted hnew h.sorted
  expands := by
    intro a ha
    cases (mem_insertSorted hnew).mp ha with
    | inl hae =>
      subst hae
      exact ⟨ds, hds, fun d hd => (mem_insertSorted hnew).mpr (.inr (hall d hd))⟩
    | inr ha =>
      obtain ⟨ds', hds', hall'⟩ := h.expands a ha
      exact ⟨ds', hds', fun d hd => (mem_insertSorted hnew).mpr (.inr (hall' d hd))⟩
  acyclic := by
    intro a ha hcycle
    cases (mem_insertSorted hnew).mp ha with
    | inl hae =>
      -- The first step of the cycle leads into the accepted nodes, which do not lead back.
      subst hae
      obtain ⟨d, hd, hback⟩ := (TransGen.head'_iff).mp hcycle
      obtain ⟨ds', hds', hmem⟩ := hd
      obtain rfl := Except.ok.inj (hds.symm.trans hds')
      exact hnew a (h.closed (hall d hmem) hback) rfl
    | inr ha => exact h.acyclic a ha hcycle

variable [DecidableEq E]

structure Grows (g : Graph E K N X) (roots : List E) (path : List N) (accepted out : List E) :
    Prop where
  settled : g.Settled out
  keeps : ∀ a ∈ accepted, a ∈ out
  adds : ∀ a ∈ out, a ∈ accepted ∨ (g.Reached roots a ∧ g.name a ∉ path)

omit [DecidableEq E] [DecidableEq N] in
lemma Grows.refl {path : List N} {accepted : List E} (h : g.Settled accepted) :
    Grows g roots path accepted accepted := ⟨h, fun _ ha => ha, fun _ ha => .inl ha⟩

omit [DecidableEq E] [DecidableEq N] in
lemma Grows.trans {path : List N} {accepted next out : List E}
    (h : Grows g roots path accepted next) (h' : Grows g roots path next out) :
    Grows g roots path accepted out where
  settled := h'.settled
  keeps := fun a ha => h'.keeps a (h.keeps a ha)
  adds := fun a ha => (h'.adds a ha).elim (h.adds a) .inr

omit [DecidableEq E] [DecidableEq N] in
lemma Grows.reached {path : List N} {accepted out : List E}
    (h : Grows g roots path accepted out) (hreached : ∀ a ∈ accepted, g.Reached roots a) :
    ∀ a ∈ out, g.Reached roots a :=
  fun a ha => (h.adds a ha).elim (hreached a) And.left

def VisitGrows (g : Graph E K N X) (roots : List E) (path : List N) : Prop :=
  ∀ e accepted out, g.Reached roots e → (∀ a ∈ accepted, g.Reached roots a) →
    g.Settled accepted → g.visit path accepted e = .ok out →
    Grows g roots path accepted out ∧ e ∈ out

lemma visitAll_grows {path : List N} (hvisit : VisitGrows g roots path) {es accepted out : List E}
    (hes : ∀ e ∈ es, g.Reached roots e) (hreached : ∀ a ∈ accepted, g.Reached roots a)
    (hsettled : g.Settled accepted) (h : g.visitAll path accepted es = .ok out) :
    Grows g roots path accepted out ∧ ∀ e ∈ es, e ∈ out := by
  induction es generalizing accepted with
  | nil =>
    rw [g.visitAll_nil] at h
    obtain rfl := Except.ok.inj h
    exact ⟨.refl hsettled, by simp⟩
  | cons e es ih =>
    obtain ⟨next, hnext, hout⟩ := (g.visitAll_cons).mp h
    obtain ⟨hgrows, he⟩ := hvisit e accepted next (hes e List.mem_cons_self) hreached hsettled hnext
    obtain ⟨hrest, hmem⟩ := ih (fun d hd => hes d (List.mem_cons_of_mem _ hd))
      (hgrows.reached hreached) hgrows.settled hout
    refine ⟨hgrows.trans hrest, fun d hd => ?_⟩
    cases List.mem_cons.mp hd with
    | inl hde => exact hde ▸ hrest.keeps e he
    | inr hd => exact hmem d hd

lemma visit_grows (hcoherent : g.Coherent roots) (path : List N) : VisitGrows g roots path := by
  induction path using g.path_induction with
  | h path ih =>
    intro e accepted out he hreached hsettled h
    cases (g.visit_ok).mp h with
    | inl hfound =>
      obtain ⟨hlookup, rfl⟩ := hfound
      exact ⟨.refl hsettled, (lookup_eq_some hlookup).1⟩
    | inr hnew =>
      obtain ⟨hlookup, hpath, ds, next, hds, hnext, rfl⟩ := hnew
      have hdeps : ∀ d ∈ ds, g.Reached roots d := fun d hd => he.expand ⟨ds, hds, hd⟩
      obtain ⟨hgrows, hall⟩ := visitAll_grows (ih _ (g.named_of_expand e ds hds) hpath) hdeps
        hreached hsettled hnext
      have hfresh : ∀ a ∈ next, g.key a ≠ g.key e := by
        intro a ha hkey
        cases hgrows.adds a ha with
        | inl hold => exact (lookup_eq_none).mp hlookup a hold hkey
        | inr hadded =>
          obtain rfl := hcoherent a e hadded.1 he hkey
          exact hadded.2 (by simp)
      refine ⟨⟨hgrows.settled.insert hds hall hfresh, fun a ha => ?_, fun a ha => ?_⟩, ?_⟩
      · exact (mem_insertSorted hfresh).mpr (.inr (hgrows.keeps a ha))
      · cases (mem_insertSorted hfresh).mp ha with
        | inl hae => exact .inr (hae ▸ ⟨he, hpath⟩)
        | inr ha =>
          exact (hgrows.adds a ha).imp_right (fun h => ⟨h.1, fun hp => h.2 (by simp [hp])⟩)
      · exact (mem_insertSorted hfresh).mpr (.inl rfl)

def Leads (g : Graph E K N X) (roots : List E) (path : List N) (e : E) : Prop :=
  ∀ n ∈ path, ∃ q, g.Reached roots q ∧ g.name q = n ∧ TransGen g.Expands q e

def VisitSucceeds (g : Graph E K N X) (roots : List E) (path : List N) : Prop :=
  ∀ e accepted, g.Reached roots e → Leads g roots path e →
    (∀ a ∈ accepted, g.Reached roots a) → g.Settled accepted →
    ∃ out, g.visit path accepted e = .ok out

lemma visitAll_succeeds (hcoherent : g.Coherent roots) {path : List N}
    (hvisit : VisitSucceeds g roots path) {es accepted : List E}
    (hes : ∀ e ∈ es, g.Reached roots e) (hleads : ∀ e ∈ es, Leads g roots path e)
    (hreached : ∀ a ∈ accepted, g.Reached roots a) (hsettled : g.Settled accepted) :
    ∃ out, g.visitAll path accepted es = .ok out := by
  induction es generalizing accepted with
  | nil => exact ⟨accepted, g.visitAll_nil⟩
  | cons e es ih =>
    have he := hes e List.mem_cons_self
    obtain ⟨next, hnext⟩ := hvisit e accepted he (hleads e List.mem_cons_self) hreached hsettled
    obtain ⟨hgrows, _⟩ := visit_grows hcoherent path e accepted next he hreached hsettled hnext
    obtain ⟨out, hout⟩ := ih (fun d hd => hes d (List.mem_cons_of_mem _ hd))
      (fun d hd => hleads d (List.mem_cons_of_mem _ hd)) (hgrows.reached hreached) hgrows.settled
    exact ⟨out, (g.visitAll_cons).mpr ⟨next, hnext, hout⟩⟩

lemma visit_succeeds (hcoherent : g.Coherent roots) (hexpandable : g.Expandable roots)
    (path : List N) : VisitSucceeds g roots path := by
  induction path using g.path_induction with
  | h path ih =>
    intro e accepted he hleads hreached hsettled
    cases hlookup : g.lookup accepted e with
    | some existing =>
      obtain ⟨hmem, hkey⟩ := lookup_eq_some hlookup
      obtain rfl := hcoherent existing e (hreached existing hmem) he hkey
      exact ⟨accepted, (g.visit_ok).mpr (.inl ⟨hlookup, rfl⟩)⟩
    | none =>
      have hpath : g.name e ∉ path := by
        intro hmem
        obtain ⟨q, hq, hname, hcycle⟩ := hleads _ hmem
        obtain rfl := hcoherent q e hq he (g.key_of_name q e hname)
        exact hexpandable.acyclic q hq hcycle
      obtain ⟨ds, hds⟩ := hexpandable.expands e he
      have hdeps : ∀ d ∈ ds, g.Expands e d := fun d hd => ⟨ds, hds, hd⟩
      have hfurther : ∀ d ∈ ds, Leads g roots (path ++ [g.name e]) d := by
        intro d hd n hn
        cases List.mem_append.mp hn with
        | inl hn =>
          obtain ⟨q, hq, hname, hqe⟩ := hleads n hn
          exact ⟨q, hq, hname, hqe.tail (hdeps d hd)⟩
        | inr hn => exact ⟨e, he, (List.mem_singleton.mp hn).symm, .single (hdeps d hd)⟩
      obtain ⟨next, hnext⟩ := visitAll_succeeds hcoherent
        (ih _ (g.named_of_expand e ds hds) hpath) (fun d hd => he.expand (hdeps d hd)) hfurther
        hreached hsettled
      exact ⟨_, (g.visit_ok).mpr (.inr ⟨hlookup, hpath, ds, next, hds, hnext, rfl⟩)⟩

theorem visitAll_eq_ok_iff (hcoherent : g.Coherent roots) {out : List E} :
    g.visitAll [] [] roots = .ok out ↔ g.Expandable roots ∧ out.Pairwise (g.key · < g.key ·) ∧
      ∀ e, e ∈ out ↔ g.Reached roots e := by
  have hroots : ∀ e ∈ roots, g.Reached roots e := fun e he => ⟨e, he, .refl⟩
  have hempty : g.Settled ([] : List E) := ⟨List.Pairwise.nil, by simp, by simp⟩
  have hsound : ∀ {out}, g.visitAll [] [] roots = .ok out → g.Settled out ∧
      ∀ e, e ∈ out ↔ g.Reached roots e := by
    intro out h
    obtain ⟨hgrows, hall⟩ := visitAll_grows (visit_grows hcoherent []) hroots (by simp) hempty h
    refine ⟨hgrows.settled, fun e => ⟨hgrows.reached (by simp) e, ?_⟩⟩
    rintro ⟨root, hroot, hpath⟩
    exact hgrows.settled.closed (hall root hroot) hpath
  constructor
  · intro h
    obtain ⟨hsettled, hmem⟩ := hsound h
    refine ⟨⟨fun e he => ?_, fun e he => hsettled.acyclic e ((hmem e).mpr he)⟩, hsettled.sorted,
      hmem⟩
    obtain ⟨ds, hds, _⟩ := hsettled.expands e ((hmem e).mpr he)
    exact ⟨ds, hds⟩
  · rintro ⟨hexpandable, hsorted, hmem⟩
    obtain ⟨found, hfound⟩ := visitAll_succeeds hcoherent (visit_succeeds hcoherent hexpandable [])
      hroots (by simp [Leads]) (by simp) hempty
    obtain ⟨hsettled, hmem'⟩ := hsound hfound
    rw [hfound, eq_of_sorted hsettled.sorted hsorted (fun e => (hmem' e).trans (hmem e).symm)]

end Graph

end Awaken.Lib.DepthFirst
