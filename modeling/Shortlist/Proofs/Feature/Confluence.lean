import Shortlist.Proofs.Feature.Progress
/-! Concurrent loads against sequential ones. A concurrent phase whose fetchers keep out of each
other's way leaves the user as a sequential one does, its barrier apart. -/
namespace Shortlist

/-- The same fetchers run one by one. -/
def Loader.inOrder (loader : Loader) : Loader :=
  { loader with config := { loader.config with concurrent := false } }

namespace FetchSession

/-- A concurrent phase for the user whose fetchers take their turns by a schedule, with the last
look at its end. -/
def loadAlong (s : FetchSession) (loader : Loader) (request : Request)
    (schedule : List FetchEvent) : LoadReport × FetchSession :=
  if s.nothingToLoad .user loader then s.finish .user loader .completed
  else
    let after := (s.start .user loader request).run schedule
    after.finish .user loader (after.outcomeOf s.calls.length)

/-! ### The same call in order -/

/-- Run one by one after others that they keep apart from, the fetchers do what each of them does
alone. -/
theorem runInline_user {r : Request} {u : User} {runs : List Solo} {fetchers : List Fetcher}
    {s : FetchSession} (hid : s.entities.user.id = u.id)
    (hmerges : u.store.Merges runs s.entities.user.store)
    (horderly : ∀ f ∈ fetchers, f.Orderly r u)
    (hruns : ∀ run ∈ runs, ∀ f ∈ fetchers, run.Apart (f.solo r u))
    (hapart : fetchers.Pairwise (Fetcher.Apart r u)) :
    ∃ store, u.store.Merges (runs ++ fetchers.map (·.solo r u)) store ∧
      s.runInline .user r fetchers =
        (true, { s with
          entities := s.entities.withStore store
          failures := s.failures ++ fetchers.flatMap (·.failures r u) }) := by
  induction fetchers generalizing s runs with
  | nil => exact ⟨_, by simpa using hmerges, by simp [runInline, Entities.withStore]⟩
  | cons f fs ih =>
      obtain ⟨hf, hfs⟩ := List.pairwise_cons.mp hapart
      obtain ⟨halike, hmore⟩ := hmerges.alone (p := f.forUser r u.id)
        fun run hrun => hruns run hrun f List.mem_cons_self
      have horder := horderly f List.mem_cons_self
      have hfinish := Program.finish_user (e := s.entities) (halike.handsOff.mpr horder.hands_off)
      rw [halike.stop?] at hfinish
      have hruns' : ∀ run ∈ runs ++ [f.solo r u], ∀ g ∈ fs, run.Apart (g.solo r u) := by
        intro run hrun g hg
        rcases List.mem_append.mp hrun with hrun | hrun
        · exact hruns run hrun g (List.mem_cons_of_mem f hg)
        · rw [List.mem_singleton.mp hrun]
          exact hf g hg
      obtain ⟨store, hmerged, hrest⟩ := ih (s := { s with
          entities := s.entities.withStore ((f.forUser r u.id).alone s.entities.user.store).store
          failures := s.failures ++ f.failures r u }) hid hmore
        (fun g hg => horderly g (List.mem_cons_of_mem f hg)) hruns' hfs
      refine ⟨store, by rw [List.map_cons, List.append_cons]; exact hmerged, ?_⟩
      have hgoes : ¬ ((f.forUser r u.id).alone u.store).stop? = some .panicked := horder.no_panic
      simp only [runInline, Fetcher.program, hid, hfinish, logStop_eq, if_neg hgoes]
      refine hrest.trans ?_
      simp only [List.flatMap_cons, List.append_assoc]
      rfl

/-- The end of a call for the user sees the store alone. -/
theorem finish_withBarrier {s s' : FetchSession} {b : Barrier}
    (h : s.entities.withBarrier b = s'.entities) (loader : Loader) (outcome : WaitOutcome) :
    (s.finish .user loader outcome).1 = (s'.finish .user loader outcome).1 ∧
      (s.finish .user loader outcome).2.entities.withBarrier b =
        (s'.finish .user loader outcome).2.entities := by
  simp only [finish, promote, ← h]
  exact ⟨rfl, rfl⟩

/-- What a sequential phase of orderly fetchers leaves that keep out of each other's way. -/
theorem load_inOrder {e : Entities} {loader : Loader} {r : Request} (b : Barrier)
    (horderly : ∀ f ∈ loader.fetchers, f.Orderly r e.user)
    (hapart : loader.fetchers.Pairwise (Fetcher.Apart r e.user)) :
    ∃ store, e.user.store.Merges (loader.fetchers.map (·.solo r e.user)) store ∧
      load { entities := e.withBarrier b } .user loader.inOrder r =
        (finish { entities := (e.withStore store).withBarrier b
                  failures := loader.fetchers.flatMap (·.failures r e.user) }
          .user loader .completed).map some id := by
  obtain ⟨store, hmerges, hinline⟩ := runInline_user (u := e.user)
    (s := { entities := e.withBarrier b }) rfl (.nil e.user.store) horderly
    (fun run hrun => by cases hrun) hapart
  refine ⟨store, hmerges, ?_⟩
  unfold load
  split
  · next hnothing =>
      have hnil : loader.fetchers = [] := by
        simpa [nothingToLoad, Loader.inOrder] using hnothing
      rw [hnil] at hmerges ⊢
      rw [Store.Merges.unique (.nil e.user.store) hmerges]
      rfl
  · have hinline' : runInline { entities := e.withBarrier b } .user r loader.inOrder.fetchers = _ :=
      hinline
    simp only [hinline']
    rfl

/-- What a concurrent phase leaves of them if it completes. -/
theorem loadAlong_completed {e : Entities} (hb : e.user.barrier.Reachable) {loader : Loader}
    {r : Request} (horderly : ∀ f ∈ loader.fetchers, f.Orderly r e.user)
    (hapart : loader.fetchers.Pairwise (Fetcher.Apart r e.user))
    {schedule : List FetchEvent} (hturns : ∀ turn ∈ schedule, turn.isTurn = true)
    (houtcome : (loadAlong { entities := e } loader r schedule).1.outcome = .completed) :
    ∃ s : FetchSession,
      loadAlong { entities := e } loader r schedule = s.finish .user loader .completed ∧
      e.user.store.Merges (loader.fetchers.map (·.solo r e.user)) s.entities.user.store ∧
      s.entities = (e.withStore s.entities.user.store).withBarrier s.own ∧
      s.failures.Perm (loader.fetchers.flatMap (·.failures r e.user)) := by
  unfold loadAlong at houtcome ⊢
  split at houtcome
  · next hnothing =>
      have hnil : loader.fetchers = [] := by simpa [nothingToLoad] using hnothing
      rw [if_pos hnothing, hnil]
      exact ⟨_, rfl, .nil e.user.store, rfl, .nil⟩
  · next hwork =>
      have hne : loader.fetchers ≠ [] := by simpa [nothingToLoad] using hwork
      obtain ⟨ps, hstart⟩ := underway_start hb horderly hne
      obtain ⟨ps', hlast⟩ := hstart.run hapart hturns
      rw [if_neg hwork]
      have hcompleted : outcomeOf _ 0 = .completed := houtcome
      obtain ⟨hmerges, hfailures⟩ := hlast.completed hcompleted
      refine ⟨_, ?_, hmerges, hlast.entities, hfailures⟩
      exact congrArg (finish _ .user loader) hcompleted

/-- A concurrent load is one along some schedule. -/
theorem load_eq_loadAlong (s : FetchSession) {loader : Loader} (request : Request)
    (hconcurrent : loader.config.concurrent = true) :
    ∃ turns : List FetchEvent, (∀ turn ∈ turns, turn.isTurn = true) ∧
      s.load .user loader request = (s.loadAlong loader request turns).map some id := by
  cases hwork : s.nothingToLoad .user loader with
  | true => exact ⟨[], by simp, by simp only [load, loadAlong, hwork, if_true]⟩
  | false =>
      obtain ⟨ks, s', hs', hload⟩ := s.load_eq_run request hwork hconcurrent
      refine ⟨ks.map .advance, ?_, ?_⟩
      · intro turn hturn
        obtain ⟨k, -, rfl⟩ := List.mem_map.mp hturn
        rfl
      · rw [hload, hs', loadAlong, hwork]
        rfl

/-- If the fetchers of a call keep out of each other's way, then a concurrent phase that completes,
in whatever order its fetchers took their turns, is a sequential one: the same report, the same
failures, and the same user but for its barrier, which a sequential phase never touches. -/
theorem loadAlong_eq_inOrder {e : Entities} (hb : e.user.barrier.Reachable) {loader : Loader}
    {request : Request} (horderly : ∀ f ∈ loader.fetchers, f.Orderly request e.user)
    (hapart : loader.fetchers.Pairwise (Fetcher.Apart request e.user))
    {schedule : List FetchEvent} (hturns : ∀ turn ∈ schedule, turn.isTurn = true) (b : Barrier) :
    let concurrent := loadAlong { entities := e } loader request schedule
    let sequential := load { entities := e.withBarrier b } .user loader.inOrder request
    (concurrent.1.outcome = .completed →
      sequential.1 = some concurrent.1 ∧
      concurrent.2.entities.withBarrier b = sequential.2.entities ∧
      concurrent.2.failures.Perm sequential.2.failures) ∧
    sequential.2.own = b ∧
    (loader.config.concurrent = true →
      ∃ turns : List FetchEvent, (∀ turn ∈ turns, turn.isTurn = true) ∧
        load { entities := e } .user loader request =
          (loadAlong { entities := e } loader request turns).map some id) := by
  intro concurrent sequential
  obtain ⟨store, hmerges, hsequential⟩ := load_inOrder (e := e) b horderly hapart
  have hsequential : sequential = _ := hsequential
  refine ⟨fun houtcome => ?_, ?_, load_eq_loadAlong { entities := e } request⟩
  · obtain ⟨s, hconcurrent, hmerges', hentities, hfailures⟩ :=
      loadAlong_completed hb horderly hapart hturns houtcome
    have hbarrier : s.entities.withBarrier b = (e.withStore store).withBarrier b := by
      rw [hentities, ← hmerges'.unique hmerges]
      rfl
    let left : FetchSession :=
      { entities := (e.withStore store).withBarrier b
        failures := loader.fetchers.flatMap (·.failures request e.user) }
    obtain ⟨hreport, hleft⟩ := finish_withBarrier (show _ = left.entities from hbarrier) loader
      .completed
    rw [show concurrent = s.finish .user loader .completed from hconcurrent, hsequential]
    exact ⟨congrArg some hreport.symm, hleft, hfailures⟩
  · rw [hsequential]
    rfl

/-- Two namespaces share a key and are filled against the order of promotion. One fetcher pauses
before it writes what it has computed from a read, and the other one fails. -/
theorem loadAlong_shared_key :
    let profile : Fetcher :=
      { name := "profile"
        forUser := fun _ _ =>
          .call (.user (.addCached "profile" (.ofEntries [("tier", .int 1)]))) fun _ =>
            .pause (.call (.user (.contains "age")) fun known =>
              .call (.user (.set "seen" (.bool known))) fun _ => .done) }
    let risk : Fetcher :=
      { name := "risk"
        forUser := fun _ _ =>
          .call (.user (.addCached "risk" (.ofEntries [("tier", .int 2)]))) fun _ =>
            .call (.user (.get "age")) fun age? =>
              match age? with
              | some _ => .done
              | none => .fail (.property (.notFound "age")) }
    let loader : Loader :=
      { fetchers := [profile, risk], config := { promoted := ["risk", "profile"] } }
    let e : Entities := { user := { id := "u1" }, items := [] }
    let request : Request := { scene := "home" }
    let schedule : List FetchEvent := [.advance 0, .advance 1, .advance 0, .advance 1, .resume 0,
      .advance 1, .advance 0, .advance 0, .advance 0]
    (e.user.barrier.Reachable ∧ (∀ f ∈ loader.fetchers, f.Orderly request e.user) ∧
      loader.fetchers.Pairwise (Fetcher.Apart request e.user) ∧
      (∀ turn ∈ schedule, turn.isTurn = true) ∧
      (loadAlong { entities := e } loader request schedule).1.outcome = .completed) ∧
    (load { entities := e.withBarrier {} } .user loader.inOrder request).1 =
        some (loadAlong { entities := e } loader request schedule).1 ∧
      (loadAlong { entities := e } loader request schedule).2.entities.withBarrier {} =
        (load { entities := e.withBarrier {} } .user loader.inOrder request).2.entities ∧
      (loadAlong { entities := e } loader request schedule).2.failures.Perm
        (load { entities := e.withBarrier {} } .user loader.inOrder request).2.failures := by
  intro profile risk loader e request schedule
  have hb : e.user.barrier.Reachable := ⟨[], rfl⟩
  have horderly : ∀ f ∈ loader.fetchers, f.Orderly request e.user := by
    simp only [loader, List.forall_mem_cons, List.not_mem_nil, false_implies, implies_true,
      and_true]
    exact ⟨⟨trivial, by decide⟩, ⟨trivial, by decide⟩⟩
  have hapart : loader.fetchers.Pairwise (Fetcher.Apart request e.user) := by
    have hprofile : ∀ c ∈ (profile.solo request e.user).writes,
        c = .space "profile" ∨ (∃ key, c = .feature "profile" key) ∨ c = .property "seen" := by
      rintro c (hc | hc | hc | hc)
      · exact (StoreOp.mem_writes_addCached hc).imp_right Or.inl
      · cases hc
      · cases c with
        | property key =>
            have hkey : "seen" = key := by simpa [StoreOp.writes, StoreOp.effect] using hc
            exact Or.inr (Or.inr (by rw [hkey]))
        | feature name key => cases hc
        | space name => cases hc
      · cases hc
    have hrisk : ∀ c ∈ (risk.solo request e.user).writes,
        c = .space "risk" ∨ ∃ key, c = .feature "risk" key := by
      rintro c (hc | hc | hc)
      · exact StoreOp.mem_writes_addCached hc
      · cases hc
      · cases hc
    have hread : ∀ c ∈ (profile.solo request e.user).reads, c = .property "age" := by
      rintro c (hc | hc | hc | hc) <;> first | exact hc | cases hc
    have hrequire : ∀ c ∈ (risk.solo request e.user).reads, c = .property "age" := by
      rintro c (hc | hc | hc) <;> first | exact hc | cases hc
    refine List.pairwise_pair.mpr ⟨fun key hp hr => ?_, fun name key hp hr => ?_,
      fun c hp hr => ?_, fun c hp hr => ?_⟩
    · simpa using hrisk _ hr
    · have hname : name = "profile" := by simpa using hprofile _ hp
      have hother : name = "risk" := by simpa using hrisk _ hr
      exact absurd (hname.symm.trans hother) (by decide)
    · have hage := hprofile _ (hrequire c hr ▸ hp)
      simp at hage
    · have hage := hrisk _ (hread c hp ▸ hr)
      simp at hage
  have hturns : ∀ turn ∈ schedule, turn.isTurn = true := by decide
  have houtcome : (loadAlong { entities := e } loader request schedule).1.outcome = .completed := by
    decide +kernel
  obtain ⟨hsame, -, -⟩ := loadAlong_eq_inOrder (e := e) hb horderly hapart hturns {}
  exact ⟨⟨hb, horderly, hapart, hturns, houtcome⟩, hsame houtcome⟩

end FetchSession
end Shortlist
