/-
What a pool answers after any history of calls.

Only the offers that succeed leave a trace (`CachedPool.pool_run`): a query and a refused offer
are as if they had not been made.  What is in the pool is read off these offers (`Records`):
each type once, in the order of its first offer, with all that the bounds of its latest offer
imply.  What the pool remembers is what it would answer now (`Coherent`), so it answers from
memory and from its candidates alike (`CachedPool.query_run`).
-/
import Mathlib.Data.List.Induction
import FuzzSynth.Pool.Cached
import FuzzSynth.Proofs.Bound.Closure
import FuzzSynth.Proofs.Instance.Concrete

namespace FuzzSynth

/-- A further element comes last, unless it was there. -/
theorem Sequence.distinct_concat {α : Type} [DecidableEq α] (xs : List α) (a : α) :
    distinct (xs ++ [a]) = if a ∈ xs then distinct xs else distinct xs ++ [a] := by
  induction xs with
  | nil => simp [distinct]
  | cons b rest ih =>
      rw [List.cons_append, distinct, ih]
      by_cases hb : a = b
      · subst hb
        by_cases hrest : a ∈ rest <;> simp [distinct, hrest]
      · by_cases hrest : a ∈ rest <;> simp [distinct, hrest, hb]

/-! ## Candidates in their places -/

/-- A candidate that is placed puts out the one of its type and no other. -/
theorem mem_placeCandidate_iff {c d : Candidate} {entries : List Candidate}
    (hnodup : (entries.map Candidate.type).Nodup) :
    d ∈ placeCandidate c entries ↔ d = c ∨ (d ∈ entries ∧ d.type ≠ c.type) := by
  induction entries with
  | nil => simp [placeCandidate]
  | cons e rest ih =>
      rw [List.map_cons, List.nodup_cons] at hnodup
      obtain ⟨hfresh, hnodup⟩ := hnodup
      unfold placeCandidate
      split
      · next htype =>
          -- the types behind are others than the one that is put out
          have hother : ∀ d ∈ rest, d.type ≠ c.type := fun d hd h =>
            hfresh (htype ▸ h ▸ List.mem_map_of_mem hd)
          rw [List.mem_cons, List.mem_cons]
          constructor
          · exact fun h => h.imp_right fun hd => ⟨.inr hd, hother d hd⟩
          · rintro (h | ⟨rfl | hd, hne⟩)
            · exact .inl h
            · exact absurd htype hne
            · exact .inr hd
      · next htype =>
          rw [List.mem_cons, List.mem_cons, ih hnodup]
          constructor
          · rintro (rfl | h | ⟨hd, hne⟩)
            · exact .inr ⟨.inl rfl, htype⟩
            · exact .inl h
            · exact .inr ⟨.inr hd, hne⟩
          · rintro (h | ⟨h | hd, hne⟩)
            · exact .inr (.inl h)
            · exact .inl h
            · exact .inr (.inr ⟨hd, hne⟩)

theorem placeCandidate_of_mem {c : Candidate} {entries : List Candidate}
    (hnodup : (entries.map Candidate.type).Nodup) (hc : c ∈ entries) :
    placeCandidate c entries = entries := by
  induction entries with
  | nil => cases hc
  | cons e rest ih =>
      rw [List.map_cons, List.nodup_cons] at hnodup
      unfold placeCandidate
      rcases List.mem_cons.mp hc with rfl | hc
      · rw [if_pos rfl]
      · have hne : e.type ≠ c.type := fun h => hnodup.1 (h ▸ List.mem_map_of_mem hc)
        rw [if_neg hne, ih hnodup.2 hc]

namespace Pool

variable {pool : Pool}

theorem get?_eq_some_iff {type : Ty} {c : Candidate} :
    pool.get? type = some c ↔ c ∈ pool.entries ∧ c.type = type := by
  unfold get?
  constructor
  · intro h
    exact ⟨List.mem_of_find?_eq_some h, by simpa using List.find?_some h⟩
  · rintro ⟨hc, rfl⟩
    -- the type is there once, so the first one found is this one
    obtain ⟨d, hd⟩ := Option.isSome_iff_exists.mp
      (List.find?_isSome (p := fun d : Candidate => d.type == c.type).mpr ⟨c, hc, beq_self_eq_true _⟩)
    have htype : d.type = c.type := by simpa using List.find?_some hd
    rw [hd, List.inj_on_of_nodup_map pool.nodup (List.mem_of_find?_eq_some hd) hc htype]

theorem place_of_get? {c : Candidate} (h : pool.get? c.type = some c) : pool.place c = pool := by
  have hc := (get?_eq_some_iff.mp h).1
  cases pool
  simp only [place, Pool.mk.injEq]
  exact placeCandidate_of_mem ‹_› hc

/-- The pool after offers of concrete types. -/
def offered (pool : Pool) (offers : List (Ty × BoundSet)) : Pool :=
  offers.foldl (fun pool offer => pool.place (.offering offer.1 offer.2)) pool

end Pool

/-! ## Records of offers -/

/-- The bounds that were offered last for a type. -/
def IsLatest (offers : List (Ty × BoundSet)) (type : Ty) (bounds : BoundSet) : Prop :=
  ∃ before after, offers = before ++ (type, bounds) :: after ∧ ∀ offer ∈ after, offer.1 ≠ type

theorem isLatest_concat (offers : List (Ty × BoundSet)) (type : Ty) (bounds : BoundSet) :
    IsLatest (offers ++ [(type, bounds)]) type bounds :=
  ⟨offers, [], rfl, fun _ h => absurd h List.not_mem_nil⟩

theorem IsLatest.concat {offers : List (Ty × BoundSet)} {type : Ty} {bounds : BoundSet}
    (h : IsLatest offers type bounds) {offer : Ty × BoundSet} (hne : type ≠ offer.1) :
    IsLatest (offers ++ [offer]) type bounds := by
  obtain ⟨before, after, rfl, hafter⟩ := h
  refine ⟨before, after ++ [offer], by simp, ?_⟩
  intro o ho
  rcases List.mem_append.mp ho with ho | ho
  · exact hafter o ho
  · exact List.mem_singleton.mp ho ▸ hne.symm

/-- The candidates are what the offers amount to. -/
structure Records (offers : List (Ty × BoundSet)) (entries : List Candidate) : Prop where
  /-- Each type is there once, in the order of first offers. -/
  types : entries.map Candidate.type = Sequence.distinct (offers.map Prod.fst)
  /-- A candidate has all that the latest bounds offered for its type imply, and nothing else. -/
  bounds : ∀ c ∈ entries, ∃ b, IsLatest offers c.type b ∧ ∀ name, name ∈ c.bounds ↔ b.Implies name

/-- One more offer. -/
theorem Records.place {offers : List (Ty × BoundSet)} {pool : Pool}
    (h : Records offers pool.entries) (type : Ty) (b : BoundSet) :
    Records (offers ++ [(type, b)]) (pool.place (.offering type b)).entries := by
  constructor
  case types =>
    have hmem : type ∈ pool.entries.map Candidate.type ↔ type ∈ offers.map Prod.fst := by
      rw [h.types, Sequence.mem_distinct]
    -- a type that is there keeps its place, and a new one comes last
    rw [Pool.place, map_type_placeCandidate, List.map_append, List.map_singleton,
      Sequence.distinct_concat, ← h.types]
    exact if_congr hmem rfl rfl
  case bounds =>
    intro c hc
    rcases (mem_placeCandidate_iff pool.nodup).mp hc with rfl | ⟨hc, hne⟩
    · exact ⟨b, isLatest_concat offers type b, fun _ => BoundSet.mem_expand⟩
    · obtain ⟨latest, hlatest, hbounds⟩ := h.bounds c hc
      exact ⟨latest, hlatest.concat hne, hbounds⟩

theorem records_offered (offers : List (Ty × BoundSet)) :
    Records offers (Pool.empty.offered offers).entries := by
  -- from the last offer back: what is the latest depends on what comes behind
  induction offers using List.reverseRecOn with
  | nil => exact ⟨rfl, fun c hc => absurd hc List.not_mem_nil⟩
  | append_singleton offers offer ih =>
      rw [Pool.offered, List.foldl_concat]
      exact ih.place offer.1 offer.2

/-! ## Offers of a history -/

namespace PoolCall

/-- What a call adds to the pool. -/
def offer? : PoolCall → Option (Ty × BoundSet)
  | register type bounds => type.read.toOption.map fun t => (t, bounds.normalised)
  | query _ => none

/-- The calls that set a pool up. -/
def setUp (facts : List CandidateFact) (builtins : Bool) : List PoolCall :=
  (if builtins then Pool.builtinTypes.map fun entry =>
      register (.tree (.named entry.1 [])) (.written entry.2)
    else []) ++
  facts.map fun fact => register (.text fact.type) (.written fact.bounds)

end PoolCall

open PoolCall (setUp)

/-- The offers that were taken, from the first built-in type on. -/
def PoolCall.offers (facts : List CandidateFact) (builtins : Bool) (calls : List PoolCall) :
    List (Ty × BoundSet) :=
  (setUp facts builtins ++ calls).filterMap offer?

theorem Pool.offered_append (pool : Pool) (offers more : List (Ty × BoundSet)) :
    pool.offered (offers ++ more) = (pool.offered offers).offered more :=
  List.foldl_append

theorem Pool.registerText_eq_map (pool : Pool) (text : String) (bounds : BoundSet) :
    pool.registerText text bounds =
      (OfferedType.text text).read.map fun t => pool.place (.offering t bounds) := by
  rw [registerText, OfferedType.read]
  cases Ty.parse [] text with
  | error e => rfl
  | ok type =>
      simp only [register, OfferedType.concrete]
      split <;> rfl

/-- A fact that is no candidate adds nothing. -/
theorem Pool.pool_add (w : Widened) (fact : CandidateFact) :
    (w.add fact).pool = w.pool.offered
      (PoolCall.register (.text fact.type) (.written fact.bounds)).offer?.toList := by
  rw [Widened.add, registerText_eq_map, PoolCall.offer?]
  cases (OfferedType.text fact.type).read <;> rfl

theorem Pool.pool_foldl_add (facts : List CandidateFact) (w : Widened) :
    (facts.foldl Widened.add w).pool = w.pool.offered
      ((facts.map fun fact => PoolCall.register (.text fact.type) (.written fact.bounds)).filterMap
        PoolCall.offer?) := by
  induction facts generalizing w with
  | nil => rfl
  | cons fact rest ih =>
      rw [List.foldl_cons, ih, pool_add, ← offered_append, List.map_cons, List.filterMap_cons]
      cases (PoolCall.register (.text fact.type) (.written fact.bounds)).offer? <;> rfl

/-- A pool is set up by offers. -/
theorem Pool.pool_ofFacts (facts : List CandidateFact) (builtins : Bool) :
    (ofFacts facts builtins).pool = empty.offered ((setUp facts builtins).filterMap PoolCall.offer?) := by
  rw [ofFacts, pool_foldl_add, setUp, List.filterMap_append, offered_append]
  cases builtins with
  | false => rfl
  | true => rfl

namespace CachedPool

variable {cached : CachedPool}

/-! ## Steps -/

theorem register_of_error {type : OfferedType} {bounds : OfferedBounds} {e : CandidateError}
    (h : type.read = .error e) : cached.register type bounds = (.error e, cached) := by
  rw [register, h]

theorem register_of_ok {type : OfferedType} {bounds : OfferedBounds} {t : Ty}
    (h : type.read = .ok t) :
    cached.register type bounds =
      (.ok (.offering t bounds.normalised), cached.store (.offering t bounds.normalised)) := by
  rw [register, h]

theorem pool_store (cached : CachedPool) (c : Candidate) :
    (cached.store c).pool = cached.pool.place c := by
  unfold store
  split
  · next h => exact (Pool.place_of_get? h).symm
  · rfl

theorem pool_query (cached : CachedPool) (required : BoundSet) :
    (cached.query required).2.pool = cached.pool := by
  unfold query
  split <;> rfl

/-- A call adds its offer and nothing else. -/
theorem pool_after (cached : CachedPool) (call : PoolCall) :
    (cached.after call).pool = cached.pool.offered call.offer?.toList := by
  cases call with
  | query required => exact pool_query cached required
  | register type bounds =>
      rw [after, PoolCall.offer?]
      cases hread : type.read with
      | error e => rw [register_of_error hread]; rfl
      | ok t => rw [register_of_ok hread, pool_store]; rfl

theorem pool_run (cached : CachedPool) (calls : List PoolCall) :
    (cached.run calls).pool = cached.pool.offered (calls.filterMap PoolCall.offer?) := by
  induction calls generalizing cached with
  | nil => rfl
  | cons call rest ih =>
      rw [run, List.foldl_cons, ← run, ih, pool_after, ← Pool.offered_append, List.filterMap_cons]
      cases call.offer? <;> rfl

theorem pool_run_ofFacts (facts : List CandidateFact) (builtins : Bool) (calls : List PoolCall) :
    ((ofFacts facts builtins).run calls).pool =
      Pool.empty.offered (PoolCall.offers facts builtins calls) := by
  rw [pool_run, ofFacts, Pool.pool_ofFacts, ← Pool.offered_append, PoolCall.offers,
    List.filterMap_append]

/-! ## Memory -/

/-- Every answer that is remembered is the one that the candidates give. -/
def Coherent (cached : CachedPool) : Prop :=
  ∀ answer ∈ cached.answers, answer.2 = cached.pool.query answer.1

theorem Coherent.store (h : cached.Coherent) (c : Candidate) : (cached.store c).Coherent := by
  unfold CachedPool.store
  split
  · exact h
  -- the candidates have changed, and nothing is remembered
  · exact fun _ hanswer => absurd hanswer List.not_mem_nil

theorem Coherent.query (h : cached.Coherent) (required : BoundSet) :
    (cached.query required).2.Coherent := by
  unfold CachedPool.query
  split
  · exact h
  · intro answer hanswer
    rcases List.mem_cons.mp hanswer with rfl | hanswer
    · rfl
    · exact h answer hanswer

theorem Coherent.after (h : cached.Coherent) (call : PoolCall) : (cached.after call).Coherent := by
  cases call with
  | query required => exact h.query required
  | register type bounds =>
      rw [CachedPool.after]
      cases hread : type.read with
      | error e => rwa [register_of_error hread]
      | ok t => rw [register_of_ok hread]; exact h.store _

theorem Coherent.run (h : cached.Coherent) (calls : List PoolCall) : (cached.run calls).Coherent := by
  induction calls generalizing cached with
  | nil => exact h
  | cons call rest ih => exact ih (h.after call)

theorem Coherent.query_fst (h : cached.Coherent) (required : BoundSet) :
    (cached.query required).1 = cached.pool.query required := by
  unfold CachedPool.query
  split
  · next found hfound =>
      obtain ⟨before, after, heq, -⟩ := List.lookup_eq_some_iff.mp hfound
      exact h (required, found) (heq ▸ by simp)
  · rfl

/-- After any calls a query is answered as the candidates of that moment say. -/
theorem query_run (facts : List CandidateFact) (builtins : Bool) (calls : List PoolCall)
    (required : BoundSet) :
    (((ofFacts facts builtins).run calls).query required).1 =
      (Pool.empty.offered (PoolCall.offers facts builtins calls)).query required := by
  have hstart : (ofFacts facts builtins).Coherent := fun _ h => absurd h List.not_mem_nil
  rw [(hstart.run calls).query_fst, pool_run_ofFacts]

/-! ## Histories -/

theorem offers_filter (facts : List CandidateFact) (builtins : Bool) (calls : List PoolCall) :
    PoolCall.offers facts builtins (calls.filter fun call => call.offer?.isSome) =
      PoolCall.offers facts builtins calls := by
  have hcall : ∀ call : PoolCall, (if call.offer?.isSome = true then call.offer? else none) =
      call.offer? := fun call => by cases call.offer? <;> rfl
  rw [PoolCall.offers, PoolCall.offers, List.filterMap_append, List.filterMap_append,
    List.filterMap_filter, funext hcall]

/-- After any calls the candidates are what the offers that were taken amount to.  A query gives
those that satisfy its bounds, the same ones when all earlier queries and refused offers are left
out, and an offer that is refused changes nothing at all. -/
theorem answers_of_history (facts : List CandidateFact) (builtins : Bool) (calls : List PoolCall) :
    let cached := (ofFacts facts builtins).run calls
    let bare := (ofFacts facts builtins).run (calls.filter fun call => call.offer?.isSome)
    Records (PoolCall.offers facts builtins calls) cached.pool.entries ∧
    (∀ type c, cached.pool.get? type = some c ↔ c ∈ cached.pool.entries ∧ c.type = type) ∧
    (∀ required, (cached.query required).1 = cached.pool.entries.filter fun c =>
      ∀ name ∈ required.names, name ∈ c.bounds.names) ∧
    bare.pool = cached.pool ∧
    (∀ required, (bare.query required).1 = (cached.query required).1) ∧
    ∀ type bounds,
      match cached.register type bounds with
      | (.error _, next) => (PoolCall.register type bounds).offer? = none ∧ next = cached
      | (.ok c, next) =>
          (PoolCall.register type bounds).offer? = some (c.type, bounds.normalised) ∧
            next.pool.get? c.type = some c := by
  intro cached bare
  have hpool := pool_run_ofFacts facts builtins
  refine ⟨?records, fun type c => Pool.get?_eq_some_iff, ?query, ?bare, ?bareQuery, ?register⟩
  case records => exact hpool calls ▸ records_offered _
  case query =>
    intro required
    rw [query_run, ← hpool, Pool.query]
    exact List.filter_congr fun c _ => by
      rw [Bool.eq_iff_iff, decide_eq_true_iff]
      exact BoundSet.isSatisfiedBy_iff
  case bare => rw [hpool, hpool, offers_filter]
  case bareQuery => exact fun required => by rw [query_run, query_run, offers_filter]
  case register =>
    intro type bounds
    cases hread : type.read with
    | error e =>
        rw [register_of_error hread, PoolCall.offer?, hread]
        exact ⟨rfl, rfl⟩
    | ok t =>
        rw [register_of_ok hread, PoolCall.offer?, hread]
        refine ⟨rfl, Pool.get?_eq_some_iff.mpr ⟨?_, rfl⟩⟩
        rw [pool_store]
        exact (mem_placeCandidate_iff cached.pool.nodup).mpr (.inl rfl)

end CachedPool
end FuzzSynth
