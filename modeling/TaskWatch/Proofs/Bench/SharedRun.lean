import TaskWatch.Proofs.Bench.Shared
import TaskWatch.Proofs.Bench.Thinned

/-! Runs that two parties share.

    What one party does in a shared run it does as well in a run of its own. The other party's run has
    nothing to do meanwhile, and only time passes there. What concerns nobody in particular is done in
    all three. So a party fares in a shared run as it does in the run without what others do. -/

namespace TaskWatch.Bench

open Cache Relation

variable {α : Type} {P : Parties} {T T₁ T₂ : Tie} {mine : List Bool}
  {hs hs₁ hs₂ : List (Option Handle)} {h h₁ : Option Handle}

/-! ### Handles -/

/-- The handles of a shared run: those that are marked go with the handles of the first party, and the
    others with those of the second. -/
inductive Dealt (T₁ T₂ : Tie) : List Bool → List (Option Handle) → List (Option Handle) →
    List (Option Handle) → Prop
  | nil : Dealt T₁ T₂ [] [] [] []
  | mine {mine : List Bool} {h h₁ : Option Handle} {hs hs₁ hs₂ : List (Option Handle)}
      (like : Option.Rel (Handle.Like T₁) h h₁) (rest : Dealt T₁ T₂ mine hs hs₁ hs₂) :
      Dealt T₁ T₂ (true :: mine) (h :: hs) (h₁ :: hs₁) hs₂
  | others {mine : List Bool} {h h₂ : Option Handle} {hs hs₁ hs₂ : List (Option Handle)}
      (like : Option.Rel (Handle.Like T₂) h h₂) (rest : Dealt T₁ T₂ mine hs hs₁ hs₂) :
      Dealt T₁ T₂ (false :: mine) (h :: hs) hs₁ (h₂ :: hs₂)

namespace Dealt

theorem swap (d : Dealt T₁ T₂ mine hs hs₁ hs₂) : Dealt T₂ T₁ (mine.map (!·)) hs hs₂ hs₁ := by
  induction d with
  | nil => exact .nil
  | mine like _ ih => exact .others like ih
  | others like _ ih => exact .mine like ih

theorem mono {T₁' T₂' : Tie} (le₁ : T₁.Within T₁') (le₂ : T₂.Within T₂')
    (d : Dealt T₁ T₂ mine hs hs₁ hs₂) : Dealt T₁' T₂' mine hs hs₁ hs₂ := by
  induction d with
  | nil => exact .nil
  | mine like _ ih => exact .mine (rel_mono (fun _ _ => Handle.Like.mono le₁) like) ih
  | others like _ ih => exact .others (rel_mono (fun _ _ => Handle.Like.mono le₂) like) ih

/-- The first party is given a handle. -/
theorem snoc (d : Dealt T₁ T₂ mine hs hs₁ hs₂) (like : Option.Rel (Handle.Like T₁) h h₁) :
    Dealt T₁ T₂ (mine ++ [true]) (hs ++ [h]) (hs₁ ++ [h₁]) hs₂ := by
  induction d with
  | nil => exact .mine like .nil
  | mine first _ ih => exact .mine first ih
  | others first _ ih => exact .others first ih

/-- So many handles are the first party's own. -/
theorem count (d : Dealt T₁ T₂ mine hs hs₁ hs₂) : ownNumber mine hs.length = hs₁.length := by
  unfold ownNumber
  induction d with
  | nil => rfl
  | mine _ _ ih => rw [List.length_cons, List.take_succ_cons, List.count_cons_self, ih]; rfl
  | others _ _ ih =>
    rw [List.length_cons, List.take_succ_cons, List.count_cons_of_ne Bool.false_ne_true, ih]

theorem ownNumber_mine (i : Nat) : ownNumber (true :: mine) (i + 1) = ownNumber mine i + 1 := by
  rw [ownNumber, List.take_succ_cons, List.count_cons_self]
  rfl

theorem ownNumber_others (i : Nat) : ownNumber (false :: mine) (i + 1) = ownNumber mine i := by
  rw [ownNumber, List.take_succ_cons, List.count_cons_of_ne Bool.false_ne_true]
  rfl

/-- A handle that is not of others is found under its own number, or there is none. -/
theorem get (d : Dealt T₁ T₂ mine hs hs₁ hs₂) {i : Nat} (own : mine[i]? ≠ some false) :
    Option.Rel (Option.Rel (Handle.Like T₁)) hs[i]? hs₁[ownNumber mine i]? := by
  induction d generalizing i with
  | nil => exact .none
  | mine like _ ih =>
    cases i with
    | zero => exact .some like
    | succ i => rw [ownNumber_mine]; exact ih own
  | others _ _ ih =>
    cases i with
    | zero => exact (own rfl).elim
    | succ i => rw [ownNumber_others]; exact ih own

theorem set (d : Dealt T₁ T₂ mine hs hs₁ hs₂) {i : Nat} (own : mine[i]? ≠ some false)
    (like : Option.Rel (Handle.Like T₁) h h₁) :
    Dealt T₁ T₂ mine (hs.set i h) (hs₁.set (ownNumber mine i) h₁) hs₂ := by
  induction d generalizing i with
  | nil => exact .nil
  | mine first rest ih =>
    cases i with
    | zero => exact .mine like rest
    | succ i => rw [ownNumber_mine]; exact .mine first (ih own)
  | others first _ ih =>
    cases i with
    | zero => exact (own rfl).elim
    | succ i => rw [ownNumber_others]; exact .others first (ih own)

end Dealt

/-! ### Runs -/

namespace Run

variable {r r₁ r₂ : Run α}

/-- The first run serves both parties as the second would the first and the third the second. -/
structure Shared (P : Parties) (T₁ T₂ : Tie) (mine : List Bool) (r r₁ r₂ : Run α) : Prop where
  bench : r.bench.Shared P T₁ T₂ r₁.bench r₂.bench
  dealt : Dealt T₁ T₂ mine r.handles r₁.handles r₂.handles
  tracked : r.Tracked
  tracked₁ : r₁.Tracked
  tracked₂ : r₂.Tracked

/-- So it does, with perhaps more numbers given out. -/
def Shares (P : Parties) (T₁ T₂ : Tie) (mine : List Bool) (r r₁ r₂ : Run α) : Prop :=
  ∃ T₁' T₂', T₁.Within T₁' ∧ T₂.Within T₂' ∧ Shared P T₁' T₂' mine r r₁ r₂

/-- What follows with the numbers given out so far follows. -/
theorem Shares.next {mine' : List Bool} {q q₁ q₂ : Run α} (h : Shares P T₁ T₂ mine r r₁ r₂)
    (next : ∀ {T₁ T₂}, Shared P T₁ T₂ mine r r₁ r₂ → Shares P T₁ T₂ mine' q q₁ q₂) :
    Shares P T₁ T₂ mine' q q₁ q₂ := by
  obtain ⟨T₁', T₂', le₁, le₂, shared⟩ := h
  obtain ⟨T₁'', T₂'', le₁', le₂', shared'⟩ := next shared
  exact ⟨T₁'', T₂'', le₁.trans le₁', le₂.trans le₂', shared'⟩

namespace Shared

theorem shares (h : Shared P T₁ T₂ mine r r₁ r₂) : Shares P T₁ T₂ mine r r₁ r₂ :=
  ⟨T₁, T₂, .refl T₁, .refl T₂, h⟩

theorem swap (h : Shared P T₁ T₂ mine r r₁ r₂) : Shared P.swap T₂ T₁ (mine.map (!·)) r r₂ r₁ :=
  ⟨h.bench.swap, h.dealt.swap, h.tracked, h.tracked₂, h.tracked₁⟩

/-- The benches go on by themselves. -/
theorem benches (h : Shared P T₁ T₂ mine r r₁ r₂) {b b₁ b₂ : Bench α}
    (shares : Bench.Shares P T₁ T₂ b b₁ b₂) (goes : Goes r.bench b) (goes₁ : Goes r₁.bench b₁)
    (goes₂ : Goes r₂.bench b₂) :
    Shares P T₁ T₂ mine { r with bench := b } { r₁ with bench := b₁ } { r₂ with bench := b₂ } := by
  obtain ⟨T₁', T₂', le₁, le₂, shared⟩ := shares
  exact ⟨T₁', T₂', le₁, le₂, shared, h.dealt.mono le₁ le₂, h.tracked.goesOn (goesOn_bench goes),
    h.tracked₁.goesOn (goesOn_bench goes₁), h.tracked₂.goesOn (goesOn_bench goes₂)⟩

theorem rest (h : Shared P T₁ T₂ mine r r₁ r₂) :
    Shares P T₁ T₂ mine { r with bench := r.bench.rest } { r₁ with bench := r₁.bench.rest }
      { r₂ with bench := r₂.bench.rest } :=
  h.benches h.bench.rest (rests_rest _).goes (rests_rest _).goes (rests_rest _).goes

/-- A handle of the first party is held in both runs or in neither. -/
theorem handle? (h : Shared P T₁ T₂ mine r r₁ r₂) {i : Nat} (own : mine[i]? ≠ some false) :
    Option.Rel (Handle.Like T₁) (r.handle? i) (r₁.handle? (ownNumber mine i)) := by
  have found := h.dealt.get own
  unfold Run.handle?
  generalize r.handles[i]? = held, r₁.handles[ownNumber mine i]? = held₁ at found
  cases found with
  | none => exact .none
  | some like => exact like

end Shared

variable [BEq α] {s s₁ : Step α} {o o₁ : Outcome α} {k : Key} {i : Nat}

/-- The first party does something by itself. In its own run the same comes of it, and the run of the
    other party has nothing to do. -/
def Alike (P : Parties) (T₁ T₂ : Tie) (mine : List Bool) (r₂ : Run α)
    (x x₁ : Run α × Outcome α) : Prop :=
  Shares P T₁ T₂ (x.2.marks mine true) x.1 x₁.1 r₂ ∧ x₁.2 = x.2.renumbered (ownNumber mine)

/-- Of a cache that was given up nothing can be asked. -/
theorem act_gone (gone : r.bench.cache.abandoned = true) (about : s.key? = some k) :
    r.act s = (r, .noCache) := by
  cases s with
  | subscribe => simp only [act, onCache, gone, if_true]
  | entry => simp only [act, onCache, gone, if_true]
  | refetch => simp only [act, onCache, gone, if_true]
  | invalidate => simp only [act, onCache, gone, if_true]
  | _ => exact nomatch about

/-- With a handle that is not held nothing can be done. -/
theorem act_free (free : r.handle? i = none) (about : s.handle? = some i) :
    r.act s = (r, .noHandle) := by
  cases s with
  | unsubscribe => cases about; simp only [act, onHandle, free]
  | current => cases about; simp only [act, onHandle, free]
  | latest => cases about; simp only [act, onHandle, free]
  | keyOf => cases about; simp only [act, onHandle, free]
  | changed => cases about; simp only [act, onHandle, free]
  | waitFor => cases about; simp only [act, onHandle, free]
  | _ => exact nomatch about

namespace Shared

/-- Something is done with both caches, and handles change hands. -/
theorem acted (h : Shared P T₁ T₂ mine r r₁ r₂) {c c₁ : Cache α}
    (done : r.act s = ({ r.withCache c with handles := hs }, o))
    (done₁ : r₁.act s₁ = ({ r₁.withCache c₁ with handles := hs₁ }, o₁)) (le : T₁.Within T)
    (cache : Cache.Shared P T T₂ c c₁ r₂.bench.cache)
    (dealt : Dealt T T₂ (o.marks mine true) hs hs₁ r₂.handles)
    (same : o₁ = o.renumbered (ownNumber mine)) :
    Alike P T₁ T₂ mine r₂ (r.act s) (r₁.act s₁) := by
  have tracked := h.tracked.goesOn (goesOn_act r s)
  have tracked₁ := h.tracked₁.goesOn (goesOn_act r₁ s₁)
  rw [done] at tracked ⊢
  rw [done₁] at tracked₁ ⊢
  have bench : Bench.Shared P T T₂ (r.bench.withCache c) (r₁.bench.withCache c₁) r₂.bench :=
    ⟨h.bench.now, h.bench.origin, { cache with }, h.bench.first, h.bench.second, tracked.followed,
      tracked₁.followed, h.bench.followed₂⟩
  exact ⟨⟨T, T₂, le, .refl T₂, bench, dealt, tracked, tracked₁, h.tracked₂⟩, same⟩

/-- Handles change hands, and nothing else. -/
theorem handed (h : Shared P T₁ T₂ mine r r₁ r₂) (done : r.act s = ({ r with handles := hs }, o))
    (done₁ : r₁.act s₁ = ({ r₁ with handles := hs₁ }, o₁))
    (dealt : Dealt T₁ T₂ (o.marks mine true) hs hs₁ r₂.handles)
    (same : o₁ = o.renumbered (ownNumber mine)) :
    Alike P T₁ T₂ mine r₂ (r.act s) (r₁.act s₁) := by
  have tracked := h.tracked.goesOn (goesOn_act r s)
  have tracked₁ := h.tracked₁.goesOn (goesOn_act r₁ s₁)
  rw [done] at tracked ⊢
  rw [done₁] at tracked₁ ⊢
  exact ⟨Shared.shares ⟨h.bench, dealt, tracked, tracked₁, h.tracked₂⟩, same⟩

/-- Nothing is done. -/
theorem unchanged (h : Shared P T₁ T₂ mine r r₁ r₂) (done : r.act s = (r, o))
    (done₁ : r₁.act s₁ = (r₁, o₁)) (marks : o.marks mine true = mine)
    (same : o₁ = o.renumbered (ownNumber mine)) :
    Alike P T₁ T₂ mine r₂ (r.act s) (r₁.act s₁) := by
  refine h.handed done done₁ ?_ same
  rw [marks]
  exact h.dealt

omit [BEq α] in
theorem abandoned (h : Shared P T₁ T₂ mine r r₁ r₂) :
    r.bench.cache.abandoned = r₁.bench.cache.abandoned := h.bench.cache.abandoned.1

/-- Of a cache that was given up nothing can be asked in either run. -/
theorem act_cache (h : Shared P T₁ T₂ mine r r₁ r₂) (about : s.key? = some k)
    (does : r.bench.cache.abandoned = false → r₁.bench.cache.abandoned = false →
      Alike P T₁ T₂ mine r₂ (r.act s) (r₁.act s)) :
    Alike P T₁ T₂ mine r₂ (r.act s) (r₁.act s) := by
  cases gone : r.bench.cache.abandoned with
  | true =>
    have gone₁ : r₁.bench.cache.abandoned = true := h.abandoned ▸ gone
    exact h.unchanged (act_gone gone about) (act_gone gone₁ about) rfl rfl
  | false => exact does gone (h.abandoned ▸ gone)

/-- With a handle of the first party something can be done in both runs, or in neither. -/
theorem act_handle (h : Shared P T₁ T₂ mine r r₁ r₂) (own : mine[i]? ≠ some false)
    (about : s.handle? = some i) (about₁ : s₁.handle? = some (ownNumber mine i))
    (does : ∀ hd hd₁, r.handle? i = some hd → r₁.handle? (ownNumber mine i) = some hd₁ →
      hd.Like T₁ hd₁ → Alike P T₁ T₂ mine r₂ (r.act s) (r₁.act s₁)) :
    Alike P T₁ T₂ mine r₂ (r.act s) (r₁.act s₁) := by
  have held := h.handle? own
  generalize found : r.handle? i = hd, found₁ : r₁.handle? (ownNumber mine i) = hd₁ at held
  cases held with
  | none => exact h.unchanged (act_free found about) (act_free found₁ about₁) rfl rfl
  | some like => exact does _ _ found found₁ like

theorem act_subscribe (h : Shared P T₁ T₂ mine r r₁ r₂) {producer : Nat} (own : P.first.keys k)
    (his : P.first.producers producer) (o : Options) :
    Alike P T₁ T₂ mine r₂ (r.act (.subscribe k producer o)) (r₁.act (.subscribe k producer o)) := by
  refine h.act_cache rfl fun gone gone₁ => ?_
  have subscribed := h.bench.cache.subscribe r.bench.instant r₁.bench.turn own his o
  rw [← h.bench.instant] at subscribed
  rcases subscribed with ⟨m, misused, misused₁⟩ | ⟨d, hd, d₁, hd₁, T, ok, ok₁, le, like, cache⟩
  · have done : r.act (.subscribe k producer o) = (r, .misuse m) := by
      simp [act, onCache, gone, misused]
    have done₁ : r₁.act (.subscribe k producer o) = (r₁, .misuse m) := by
      simp [act, onCache, gone₁, misused₁]
    exact h.unchanged done done₁ rfl rfl
  · have done : r.act (.subscribe k producer o) =
        ({ r.withCache d with handles := r.handles ++ [some hd] }, .handle r.handles.length) := by
      simp [act, onCache, gone, ok]
    have done₁ : r₁.act (.subscribe k producer o) =
        ({ r₁.withCache d₁ with handles := r₁.handles ++ [some hd₁] },
          .handle r₁.handles.length) := by
      simp [act, onCache, gone₁, ok₁]
    exact h.acted done done₁ le cache ((h.dealt.mono le (.refl T₂)).snoc (.some like))
      (congrArg Outcome.handle h.dealt.count.symm)

theorem act_entry (h : Shared P T₁ T₂ mine r r₁ r₂) (own : P.first.keys k) (stale : Nat) :
    Alike P T₁ T₂ mine r₂ (r.act (.entry k stale)) (r₁.act (.entry k stale)) := by
  refine h.act_cache rfl fun gone gone₁ => ?_
  have seen := h.bench.cache.entry? own
  cases there : r₁.bench.cache.entry? k with
  | none =>
    have done : r.act (.entry k stale) = (r, .nothing) := by
      simp [act, onCache, gone, seen.trans there]
    have done₁ : r₁.act (.entry k stale) = (r₁, .nothing) := by
      simp [act, onCache, gone₁, there]
    exact h.unchanged done done₁ rfl rfl
  | some e =>
    have done : r.act (.entry k stale) =
        (r, .found (e.age r.bench.now) (e.isStale r.bench.now stale) e) := by
      simp [act, onCache, gone, seen.trans there]
    have done₁ : r₁.act (.entry k stale) =
        (r₁, .found (e.age r.bench.now) (e.isStale r.bench.now stale) e) := by
      simp [act, onCache, gone₁, there, h.bench.now.1]
    exact h.unchanged done done₁ rfl rfl

theorem act_refetch (h : Shared P T₁ T₂ mine r r₁ r₂) (own : P.first.keys k) :
    Alike P T₁ T₂ mine r₂ (r.act (.refetch k)) (r₁.act (.refetch k)) := by
  refine h.act_cache rfl fun gone gone₁ => ?_
  have refetched := h.bench.cache.refetch r.bench.instant r₁.bench.turn own
  rw [← h.bench.instant] at refetched
  rcases refetched with ⟨m, misused, misused₁⟩ | ⟨d, d₁, T, ok, ok₁, le, cache⟩
  · have done : r.act (.refetch k) = (r, .misuse m) := by simp [act, onCache, gone, misused]
    have done₁ : r₁.act (.refetch k) = (r₁, .misuse m) := by
      simp [act, onCache, gone₁, misused₁]
    exact h.unchanged done done₁ rfl rfl
  · have done : r.act (.refetch k) = (r.withCache d, .done) := by simp [act, onCache, gone, ok]
    have done₁ : r₁.act (.refetch k) = (r₁.withCache d₁, .done) := by
      simp [act, onCache, gone₁, ok₁]
    exact h.acted done done₁ le cache (h.dealt.mono le (.refl T₂)) rfl

theorem act_invalidate (h : Shared P T₁ T₂ mine r r₁ r₂) (own : P.first.keys k) :
    Alike P T₁ T₂ mine r₂ (r.act (.invalidate k)) (r₁.act (.invalidate k)) := by
  refine h.act_cache rfl fun gone gone₁ => ?_
  obtain ⟨T, le, cache, there⟩ := h.bench.cache.invalidate r.bench.instant r₁.bench.turn own
  rw [← h.bench.instant] at cache there
  have done : r.act (.invalidate k) =
      (r.withCache (r.bench.cache.invalidate r.bench.instant k).1,
        .flag (r.bench.cache.invalidate r.bench.instant k).2) := by
    simp [act, onCache, gone]
  have done₁ : r₁.act (.invalidate k) =
      (r₁.withCache (r₁.bench.cache.invalidate r₁.bench.instant k).1,
        .flag (r₁.bench.cache.invalidate r₁.bench.instant k).2) := by
    simp [act, onCache, gone₁]
  exact h.acted done done₁ le cache (h.dealt.mono le (.refl T₂))
    (congrArg Outcome.flag there.symm)

theorem act_unsubscribe (h : Shared P T₁ T₂ mine r r₁ r₂) (own : mine[i]? ≠ some false) :
    Alike P T₁ T₂ mine r₂ (r.act (.unsubscribe i)) (r₁.act (.unsubscribe (ownNumber mine i))) := by
  refine h.act_handle own rfl rfl fun hd hd₁ found found₁ like => ?_
  have dealt : Dealt T₁ T₂ mine (r.handles.set i none)
      (r₁.handles.set (ownNumber mine i) none) r₂.handles := h.dealt.set own .none
  cases gone : r.bench.cache.abandoned with
  | true =>
    have gone₁ : r₁.bench.cache.abandoned = true := h.abandoned ▸ gone
    have done : r.act (.unsubscribe i) =
        ({ r with handles := r.handles.set i none }, .nothing) := by
      simp [act, onHandle, found, setHandle, gone]
    have done₁ : r₁.act (.unsubscribe (ownNumber mine i)) =
        ({ r₁ with handles := r₁.handles.set (ownNumber mine i) none }, .nothing) := by
      simp [act, onHandle, found₁, setHandle, gone₁]
    exact h.handed done done₁ dealt rfl
  | false =>
    have gone₁ : r₁.bench.cache.abandoned = false := h.abandoned ▸ gone
    obtain ⟨T, le, cache⟩ := h.bench.cache.unsubscribe r.bench.instant r₁.bench.turn like
    rw [← h.bench.instant] at cache
    have done : r.act (.unsubscribe i) =
        ({ r.withCache (r.bench.cache.unsubscribe r.bench.instant hd) with
          handles := r.handles.set i none }, .nothing) := by
      simp [act, onHandle, found, setHandle, gone, withCache]
    have done₁ : r₁.act (.unsubscribe (ownNumber mine i)) =
        ({ r₁.withCache (r₁.bench.cache.unsubscribe r₁.bench.instant hd₁) with
          handles := r₁.handles.set (ownNumber mine i) none }, .nothing) := by
      simp [act, onHandle, found₁, setHandle, gone₁, withCache]
    exact h.acted done done₁ le cache (dealt.mono le (.refl T₂)) rfl

theorem act_current (h : Shared P T₁ T₂ mine r r₁ r₂) (own : mine[i]? ≠ some false) :
    Alike P T₁ T₂ mine r₂ (r.act (.current i)) (r₁.act (.current (ownNumber mine i))) := by
  refine h.act_handle own rfl rfl fun hd hd₁ found found₁ like => ?_
  have seen := Handle.Like.current (h.bench.cache.view like)
  cases there : hd₁.current r₁.bench.cache with
  | none =>
    have done : r.act (.current i) = (r, .nothing) := by
      simp [act, onHandle, found, seen.trans there]
    have done₁ : r₁.act (.current (ownNumber mine i)) = (r₁, .nothing) := by
      simp [act, onHandle, found₁, there]
    exact h.unchanged done done₁ rfl rfl
  | some e =>
    have done : r.act (.current i) = (r, .entry e) := by
      simp [act, onHandle, found, seen.trans there]
    have done₁ : r₁.act (.current (ownNumber mine i)) = (r₁, .entry e) := by
      simp [act, onHandle, found₁, there]
    exact h.unchanged done done₁ rfl rfl

theorem act_latest (h : Shared P T₁ T₂ mine r r₁ r₂) (own : mine[i]? ≠ some false) :
    Alike P T₁ T₂ mine r₂ (r.act (.latest i)) (r₁.act (.latest (ownNumber mine i))) := by
  refine h.act_handle own rfl rfl fun hd hd₁ found found₁ like => ?_
  have view := h.bench.cache.view like
  have seen := Handle.Like.current view
  cases there : hd₁.current r₁.bench.cache with
  | none =>
    have done : r.act (.latest i) = (r, .nothing) := by
      simp [act, onHandle, found, seen.trans there]
    have done₁ : r₁.act (.latest (ownNumber mine i)) = (r₁, .nothing) := by
      simp [act, onHandle, found₁, there]
    exact h.unchanged done done₁ rfl rfl
  | some e =>
    have done : r.act (.latest i) =
        (r.setHandle i (hd.caughtUp r.bench.cache), .entry e) := by
      simp [act, onHandle, found, seen.trans there]
    have done₁ : r₁.act (.latest (ownNumber mine i)) =
        (r₁.setHandle (ownNumber mine i) (hd₁.caughtUp r₁.bench.cache), .entry e) := by
      simp [act, onHandle, found₁, there]
    exact h.handed done done₁ (h.dealt.set own (.some (like.caughtUp view))) rfl

theorem act_keyOf (h : Shared P T₁ T₂ mine r r₁ r₂) (own : mine[i]? ≠ some false) :
    Alike P T₁ T₂ mine r₂ (r.act (.keyOf i)) (r₁.act (.keyOf (ownNumber mine i))) := by
  refine h.act_handle own rfl rfl fun hd hd₁ found found₁ like => ?_
  have done : r.act (.keyOf i) = (r, .text hd.key.text) := by simp [act, onHandle, found]
  have done₁ : r₁.act (.keyOf (ownNumber mine i)) = (r₁, .text hd.key.text) := by
    simp [act, onHandle, found₁, like.key]
  exact h.unchanged done done₁ rfl rfl

end Shared

end Run

end TaskWatch.Bench
