import ScriptRun.Proofs.Run.Execution

/-!
# The books balance

What the journal of a run says was accepted is, at every moment, what it says was released or taken
back together with what the books still hold. Callbacks balance as lists, since they run in the
order of their registration, resources up to order. For files the last word counts: the books hold
the paths that were tracked last, and each of them under one spelling.

The invariants are kept by each kind of move (`CallbacksBalance.move`, `ResourcesBalance.move`,
`FilesBalance.move`) and so hold at every moment. When a run is disposed of its books are empty, and
what balances is the journal alone.
-/

namespace ScriptRun

variable {κ σ : Type} {s : Setting κ σ} {r r' : Run κ σ}

/-! ### What the readers make of a teardown -/

lemma disposedIn_closed (s : Setting κ σ) (r : Run κ σ) :
    disposedIn (r.closed s).events = disposedIn r.events ++ r.resources.map (·.1) := by
  have hleft : (r.resources.filterMap fun x => some x.1) = r.resources.map (·.1) :=
    congrFun List.filterMap_eq_map' _
  have hnone : (r.temporaries.filterMap fun _ => (none : Option Nat)) = [] :=
    List.filterMap_eq_nil_iff.2 fun _ _ => rfl
  rw [disposedIn, filterMap_closed ⟨fun _ _ => rfl, fun _ => rfl⟩, Run.filterMap_closings, ← hleft,
    ← List.append_nil (r.resources.filterMap fun x => some x.1), ← hnone]
  rfl

lemma removedIn_closed (s : Setting κ σ) (r : Run κ σ) :
    removedIn (r.closed s).events = removedIn r.events ++ r.temporaries := by
  have hnone : (r.resources.filterMap fun _ => (none : Option String)) = [] :=
    List.filterMap_eq_nil_iff.2 fun _ _ => rfl
  have hleft : r.temporaries.filterMap some = r.temporaries := List.filterMap_some
  rw [removedIn, filterMap_closed ⟨fun _ _ => rfl, fun _ => rfl⟩, Run.filterMap_closings]
  change _ ++ ((r.resources.filterMap fun _ => none) ++ r.temporaries.filterMap some) = _
  rw [hnone, hleft, List.nil_append]

lemma Event.callback?_closing (c : Closing σ) : (Event.began (κ := κ) c.step).callback? = none := by
  cases c <;> rfl

/-! Readers of the books find nothing in other events. -/

lemma Event.callback?_of_ofBooks {e : Event κ} (h : e.ofBooks = false) : e.callback? = none := by
  rw [callback?]
  rintro _ rfl
  cases h

lemma Event.kept?_of_ofBooks {e : Event κ} (h : e.ofBooks = false) : e.kept? = none := by
  rw [kept?]
  rintro _ rfl
  cases h

lemma Event.handedBack?_of_ofBooks {e : Event κ} (h : e.ofBooks = false) :
    e.handedBack? = none := by
  rw [handedBack?]
  rintro _ rfl
  cases h

lemma Event.disposed?_of_ofBooks {e : Event κ} (h : e.ofBooks = false) : e.disposed? = none := by
  rw [disposed?]
  rintro _ rfl
  cases h

lemma Event.removed?_of_ofBooks {e : Event κ} (h : e.ofBooks = false) : e.removed? = none := by
  rw [removed?]
  rintro _ rfl
  cases h

lemma Event.tracking?_of_ofBooks (path : String) {e : Event κ} (h : e.ofBooks = false) :
    e.tracking? path = none := by
  rw [tracking?]
  · rintro _ rfl
    cases h
  · rintro _ rfl
    cases h

/-- A change that is quiet about the books tells their readers nothing. -/
lemma Quiet.filterMap_eq {α : Type} {f : Event κ → Option α}
    (hf : ∀ e : Event κ, e.ofBooks = false → f e = none) (h : Quiet r r') :
    r'.events.filterMap f = r.events.filterMap f := by
  obtain ⟨ev, hev, hidle⟩ := h.events
  rw [hev, List.filterMap_append, filterMap_eq_nil_of_idle hf hidle, List.append_nil]

lemma Quiet.isDisposed (h : Quiet r r') : r'.isDisposed = r.isDisposed := by
  rw [Run.isDisposed, Run.isDisposed]
  rcases h.lifecycle with h | ⟨h, h'⟩
  · rw [h]
  · rw [h, h']
    rfl

/-! ### Callbacks -/

/-- The callbacks that were accepted are those that were begun and those that are left. -/
structure CallbacksBalance (r : Run κ σ) : Prop where
  queued : queuedIn r.events = callbacksIn r.events ++ r.callbacks
  emptied : r.isDisposed = true → r.callbacks = []

namespace CallbacksBalance

/-- What has nothing to do with callbacks leaves their balance alone. -/
lemma of_eq (hb : CallbacksBalance r) (hq : queuedIn r'.events = queuedIn r.events)
    (hr : callbacksIn r'.events = callbacksIn r.events) (hc : r'.callbacks = r.callbacks)
    (hd : r'.isDisposed = r.isDisposed) : CallbacksBalance r' where
  queued := by rw [hq, hr, hc, hb.queued]
  emptied h := hc.trans (hb.emptied (hd ▸ h))

lemma bookkeeping (h : Bookkeeping r r') (hb : CallbacksBalance r) : CallbacksBalance r' := by
  cases h with
  | quiet h =>
    exact hb.of_eq (h.filterMap_eq fun _ => Event.queued?_of_ofBooks)
      (h.filterMap_eq fun _ => Event.callback?_of_ofBooks) h.callbacks h.isDisposed
  | queued code hr =>
    have hq := filterMap_record_some (f := Event.queued?) (e := .queued code) rfl
      { r with callbacks := r.callbacks ++ [code] }
    have hc := filterMap_record (f := Event.callback?) (e := .queued code) rfl
      { r with callbacks := r.callbacks ++ [code] }
    refine ⟨?_, fun h => absurd (hr.symm.trans h) Bool.false_ne_true⟩
    -- it is accepted behind all others, and left behind all others
    calc queuedIn _ = queuedIn r.events ++ [code] := hq
      _ = callbacksIn r.events ++ (r.callbacks ++ [code]) := by rw [hb.queued, List.append_assoc]
      _ = callbacksIn _ ++ (r.callbacks ++ [code]) := congrArg (· ++ _) hc.symm
  | kept | handedBack | tracked | untracked =>
    exact hb.of_eq (filterMap_record rfl _) (filterMap_record rfl _) rfl rfl

theorem move (h : Move s r r') (hb : CallbacksBalance r) : CallbacksBalance r' := by
  cases h with
  | change h => exact hb.bookkeeping h.bookkeeping
  | tearDown hr =>
    refine ⟨hb.queued, fun h => ?_⟩
    cases h
  | callback code rest hr hc =>
    have hq := filterMap_record (f := Event.queued?) (e := .began (.callback code)) rfl
      { r with callbacks := rest }
    have hr' := filterMap_record_some (f := Event.callback?) (e := .began (.callback code)) rfl
      { r with callbacks := rest }
    refine ⟨?_, fun h => ?_⟩
    · calc queuedIn _ = queuedIn r.events := hq
        _ = callbacksIn r.events ++ [code] ++ rest := by
          rw [hb.queued, hc, List.append_assoc, List.singleton_append]
        _ = callbacksIn _ ++ rest := congrArg (· ++ rest) hr'.symm
    · have hd : r.isDisposed = true := h
      rw [Run.isDisposed, hr] at hd
      cases hd
  | concluded o hr =>
    exact hb.of_eq (filterMap_settle ⟨fun _ _ => rfl, fun _ => rfl⟩ _ _ _ _)
      (filterMap_settle ⟨fun _ _ => rfl, fun _ => rfl⟩ _ _ _ _) rfl rfl
  | close hr hc =>
    refine ⟨?_, fun _ => hc⟩
    rw [queuedIn, callbacksIn, filterMap_closed_eq ⟨fun _ _ => rfl, fun _ => rfl⟩ (fun _ => rfl),
      filterMap_closed_eq ⟨fun _ _ => rfl, fun _ => rfl⟩ Event.callback?_closing]
    exact hb.queued

end CallbacksBalance

/-! ### Resources -/

/-- The numbers that were issued are those of the resources that were handed back, those that were
released, and those that are left, each of them once. -/
structure ResourcesBalance (r : Run κ σ) : Prop where
  issued : keptIn r.events = List.range r.nextResource
  held : (keptIn r.events).Perm
    (handedBackIn r.events ++ disposedIn r.events ++ r.resources.map (·.1))
  ascending : (r.resources.map (·.1)).Pairwise (· < ·)
  emptied : r.isDisposed = true → r.resources = []

namespace ResourcesBalance

/-- What has nothing to do with resources leaves their balance alone. -/
lemma of_eq (hb : ResourcesBalance r) (hk : keptIn r'.events = keptIn r.events)
    (hh : handedBackIn r'.events = handedBackIn r.events)
    (hr : disposedIn r'.events = disposedIn r.events) (hres : r'.resources = r.resources)
    (hn : r'.nextResource = r.nextResource) (hd : r'.isDisposed = r.isDisposed) :
    ResourcesBalance r' where
  issued := by rw [hk, hn, hb.issued]
  held := by
    rw [hk, hh, hr, hres]
    exact hb.held
  ascending := hres ▸ hb.ascending
  emptied h := hres.trans (hb.emptied (hd ▸ h))

lemma lt_nextResource (hb : ResourcesBalance r) {id : Nat} (h : id ∈ r.resources.map (·.1)) :
    id < r.nextResource := by
  have hk : id ∈ keptIn r.events := hb.held.mem_iff.2 (List.mem_append_right _ h)
  rw [hb.issued] at hk
  exact List.mem_range.1 hk

/-- Taking one number out of those left. -/
lemma perm_take {back released ids : List Nat} {id : Nat} (h : id ∈ ids) (hn : ids.Nodup) :
    (back ++ released ++ ids).Perm (back ++ [id] ++ released ++ ids.filter (· != id)) := by
  have hids : ids.Perm (id :: ids.filter (· != id)) := by
    rw [← hn.erase_eq_filter]
    exact List.perm_cons_erase h
  calc (back ++ released ++ ids).Perm (back ++ released ++ id :: ids.filter (· != id)) :=
        hids.append_left _
    List.Perm _ (id :: (back ++ released ++ ids.filter (· != id))) := List.perm_middle
    List.Perm _ (back ++ [id] ++ released ++ ids.filter (· != id)) := by
      simp only [List.append_assoc, List.singleton_append]
      exact List.perm_middle.symm

lemma bookkeeping (h : Bookkeeping r r') (hb : ResourcesBalance r) : ResourcesBalance r' := by
  cases h with
  | quiet h =>
    exact hb.of_eq (h.filterMap_eq fun _ => Event.kept?_of_ofBooks)
      (h.filterMap_eq fun _ => Event.handedBack?_of_ofBooks)
      (h.filterMap_eq fun _ => Event.disposed?_of_ofBooks) h.resources h.nextResource h.isDisposed
  | kept resource hr =>
    have hk := filterMap_record_some (f := Event.kept?) (e := .kept r.nextResource) rfl
      { r with
        resources := r.resources ++ [(r.nextResource, resource)]
        nextResource := r.nextResource + 1 }
    refine ⟨?_, ?_, ?_, fun h => absurd (hr.symm.trans h) Bool.false_ne_true⟩
    · calc keptIn _ = keptIn r.events ++ [r.nextResource] := hk
        _ = List.range (r.nextResource + 1) := by rw [hb.issued, List.range_succ]
    · have hh := filterMap_record (f := Event.handedBack?) (e := .kept r.nextResource) rfl
        { r with
          resources := r.resources ++ [(r.nextResource, resource)]
          nextResource := r.nextResource + 1 }
      have hd := filterMap_record (f := Event.disposed?) (e := .kept r.nextResource) rfl
        { r with
          resources := r.resources ++ [(r.nextResource, resource)]
          nextResource := r.nextResource + 1 }
      rw [keptIn, hk, handedBackIn, hh, disposedIn, hd]
      change (keptIn r.events ++ [r.nextResource]).Perm
        (_ ++ _ ++ (r.resources ++ [(r.nextResource, resource)]).map (·.1))
      rw [List.map_append, ← List.append_assoc]
      exact hb.held.append_right _
    · change ((r.resources ++ [(r.nextResource, resource)]).map (·.1)).Pairwise (· < ·)
      rw [List.map_append, List.pairwise_append]
      refine ⟨hb.ascending, List.pairwise_singleton _ _, ?_⟩
      intro id hid next hnext
      rw [List.mem_singleton.1 hnext]
      exact hb.lt_nextResource hid
  | handedBack id hid =>
    have hk := filterMap_record (f := Event.kept?) (e := .handedBack id) rfl
      { r with resources := r.resources.filter (·.1 != id) }
    have hh := filterMap_record_some (f := Event.handedBack?) (e := .handedBack id) rfl
      { r with resources := r.resources.filter (·.1 != id) }
    have hd := filterMap_record (f := Event.disposed?) (e := .handedBack id) rfl
      { r with resources := r.resources.filter (·.1 != id) }
    have hids : (r.resources.filter (·.1 != id)).map (·.1)
        = (r.resources.map (·.1)).filter (· != id) := by
      rw [List.filter_map]
      rfl
    refine ⟨hk.trans hb.issued, ?_, ?_, ?_⟩
    · rw [keptIn, hk, handedBackIn, hh, disposedIn, hd]
      change List.Perm _ (_ ++ _ ++ _ ++ (r.resources.filter (·.1 != id)).map (·.1))
      rw [hids]
      exact hb.held.trans (perm_take hid (hb.ascending.imp Nat.ne_of_lt))
    · change ((r.resources.filter (·.1 != id)).map (·.1)).Pairwise (· < ·)
      rw [hids]
      exact hb.ascending.sublist List.filter_sublist
    · intro h
      change r.resources.filter _ = []
      rw [hb.emptied h, List.filter_nil]
  | queued | tracked | untracked =>
    exact hb.of_eq (filterMap_record rfl _) (filterMap_record rfl _) (filterMap_record rfl _) rfl
      rfl rfl

theorem move (h : Move s r r') (hb : ResourcesBalance r) : ResourcesBalance r' := by
  cases h with
  | change h => exact hb.bookkeeping h.bookkeeping
  | tearDown hr =>
    exact hb.of_eq rfl rfl rfl rfl rfl (Run.isDisposed_of_not_isTorn hr).symm
  | callback code rest hr hc =>
    exact hb.of_eq (filterMap_record rfl _) (filterMap_record rfl _) (filterMap_record rfl _) rfl
      rfl rfl
  | concluded o hr =>
    exact hb.of_eq (filterMap_settle ⟨fun _ _ => rfl, fun _ => rfl⟩ _ _ _ _)
      (filterMap_settle ⟨fun _ _ => rfl, fun _ => rfl⟩ _ _ _ _)
      (filterMap_settle ⟨fun _ _ => rfl, fun _ => rfl⟩ _ _ _ _) rfl rfl rfl
  | close hr hc =>
    have hk := filterMap_closed_eq (f := Event.kept?) ⟨fun _ _ => rfl, fun _ => rfl⟩
      (fun _ => rfl) s r
    have hh := filterMap_closed_eq (f := Event.handedBack?) ⟨fun _ _ => rfl, fun _ => rfl⟩
      (fun _ => rfl) s r
    refine ⟨hk.trans hb.issued, ?_, .nil, fun _ => rfl⟩
    rw [keptIn, hk, handedBackIn, hh, disposedIn_closed, ← List.append_assoc]
    exact hb.held.trans (.of_eq (List.append_nil _).symm)

end ResourcesBalance

/-! ### Files -/

lemma lastTracking_record (r : Run κ σ) (e : Event κ) (path : String) :
    lastTracking (r.record e).events path =
      (e.tracking? path).or (lastTracking r.events path) := by
  rw [lastTracking]
  rw [Run.events_record, List.filterMap_append, List.getLast?_append]
  cases h : e.tracking? path with
  | none => rw [List.filterMap_cons_none h]; rfl
  | some b => rw [List.filterMap_cons_some h]; rfl

/-- Whether a file is among some files, however its path is spelled. -/
abbrev Listed (files : List String) (path : String) : Prop :=
  files.any (Path.samePath path) = true

/-- The files that were deleted and those that are left are the ones that were tracked last, each
of them under one spelling. -/
structure FilesBalance (r : Run κ σ) : Prop where
  distinct : (removedIn r.events ++ r.temporaries).Pairwise fun p q => Path.samePath p q = false
  last : ∀ path, Listed (removedIn r.events ++ r.temporaries) path ↔
    lastTracking r.events path = some true
  untouched : r.isDisposed = false → removedIn r.events = []
  emptied : r.isDisposed = true → r.temporaries = []

namespace FilesBalance

/-- What has nothing to do with files leaves their balance alone. -/
lemma of_eq (hb : FilesBalance r) (hr : removedIn r'.events = removedIn r.events)
    (hl : ∀ path, r'.events.filterMap (Event.tracking? path) =
      r.events.filterMap (Event.tracking? path))
    (ht : r'.temporaries = r.temporaries) (hd : r'.isDisposed = r.isDisposed) :
    FilesBalance r' where
  distinct := by
    rw [hr, ht]
    exact hb.distinct
  last path := by
    rw [hr, ht, hb.last, lastTracking, lastTracking, hl]
  untouched h := hr.trans (hb.untouched (hd ▸ h))
  emptied h := ht.trans (hb.emptied (hd ▸ h))

/-- Before disposal the files are those that are left. -/
lemma isTemporary_iff (hb : FilesBalance r) (hr : r.isDisposed = false) (path : String) :
    r.isTemporary path = true ↔ lastTracking r.events path = some true := by
  have h := hb.last path
  rw [hb.untouched hr, List.nil_append] at h
  exact h

lemma isDisposed_of_isTemporary (hb : FilesBalance r) {path : String}
    (h : r.isTemporary path = true) : r.isDisposed = false := by
  cases hd : r.isDisposed with
  | false => rfl
  | true =>
    rw [Run.isTemporary, hb.emptied hd] at h
    cases h

/-- A run that is not disposed, with other files. -/
lemma of_temporaries (hr : r'.isDisposed = false) (hrem : removedIn r'.events = [])
    (hd : r'.temporaries.Pairwise fun p q => Path.samePath p q = false)
    (hl : ∀ path, r'.isTemporary path = true ↔ lastTracking r'.events path = some true) :
    FilesBalance r' where
  distinct := by
    rw [hrem]
    exact hd
  last path := by
    rw [hrem]
    exact hl path
  untouched _ := hrem
  emptied h := absurd (hr.symm.trans h) Bool.false_ne_true

lemma distinct_temporaries (hb : FilesBalance r) :
    r.temporaries.Pairwise fun p q => Path.samePath p q = false :=
  (List.pairwise_append.1 hb.distinct).2.1

lemma tracked (hb : FilesBalance r) {path : String} (hr : r.isDisposed = false)
    (h : r.isTemporary path = false) :
    FilesBalance ({ r with temporaries := r.temporaries ++ [path] }.record (.tracked path)) := by
  refine of_temporaries hr ((filterMap_record rfl _).trans (hb.untouched hr)) ?_ fun q => ?_
  · refine List.pairwise_append.2 ⟨hb.distinct_temporaries, List.pairwise_singleton _ _, ?_⟩
    intro p hp p' hp'
    rw [List.mem_singleton.1 hp', Path.samePath_comm]
    exact List.any_eq_false.1 h p hp |> Bool.eq_false_iff.2
  · change (r.temporaries ++ [path]).any (Path.samePath q) = true ↔ _
    rw [lastTracking_record, List.any_append, List.any_cons, List.any_nil, Bool.or_false]
    change (r.isTemporary q || Path.samePath q path) = true ↔
      (if Path.samePath q path = true then some true else none).or (lastTracking r.events q) =
        some true
    cases hq : Path.samePath q path with
    | true => simp
    | false => simpa using hb.isTemporary_iff hr q

lemma untracked (hb : FilesBalance r) {path : String} (h : r.isTemporary path = true) :
    FilesBalance ({ r with
      temporaries := r.temporaries.filter fun p => !Path.samePath path p }.record
        (.untracked path)) := by
  have hr := hb.isDisposed_of_isTemporary h
  refine of_temporaries hr ((filterMap_record rfl _).trans (hb.untouched hr)) ?_ fun q => ?_
  · exact hb.distinct_temporaries.sublist List.filter_sublist
  · rw [lastTracking_record]
    change (r.temporaries.filter fun p => !Path.samePath path p).any (Path.samePath q) = true ↔
      (if Path.samePath q path = true then some false else none).or (lastTracking r.events q) =
        some true
    rw [List.any_filter]
    cases hq : Path.samePath q path with
    | true =>
      -- whatever is spelled like `q` is spelled like `path`, and is left out
      have hnone : r.temporaries.any (fun p => !Path.samePath path p && Path.samePath q p) =
          false := by
        refine List.any_eq_false.2 fun p _ hp => ?_
        obtain ⟨hpath, hqp⟩ := Bool.and_eq_true_iff.1 hp
        rw [Path.samePath_comm] at hq
        rw [Path.samePath_trans hq hqp] at hpath
        cases hpath
      rw [hnone]
      simp
    | false =>
      have hsame : r.temporaries.any (fun p => !Path.samePath path p && Path.samePath q p) =
          r.isTemporary q := by
        refine congrArg (r.temporaries.any ·) (funext fun p => ?_)
        cases hqp : Path.samePath q p with
        | false => exact Bool.and_false _
        | true =>
          have hpath : Path.samePath path p = false := by
            refine Bool.eq_false_iff.2 fun hpath => ?_
            rw [Path.samePath_comm] at hpath
            rw [Path.samePath_trans hqp hpath] at hq
            cases hq
          rw [hpath]
          rfl
      rw [hsame]
      simpa using hb.isTemporary_iff hr q

lemma bookkeeping (h : Bookkeeping r r') (hb : FilesBalance r) : FilesBalance r' := by
  cases h with
  | quiet h =>
    exact hb.of_eq (h.filterMap_eq fun _ => Event.removed?_of_ofBooks)
      (fun path => h.filterMap_eq fun _ => Event.tracking?_of_ofBooks path) h.temporaries
      h.isDisposed
  | tracked path hr h => exact hb.tracked hr h
  | untracked path h => exact hb.untracked h
  | queued | kept | handedBack =>
    exact hb.of_eq (filterMap_record rfl _) (fun _ => filterMap_record rfl _) rfl rfl

theorem move (h : Move s r r') (hb : FilesBalance r) : FilesBalance r' := by
  cases h with
  | change h => exact hb.bookkeeping h.bookkeeping
  | tearDown hr => exact hb.of_eq rfl (fun _ => rfl) rfl (Run.isDisposed_of_not_isTorn hr).symm
  | callback code rest hr hc =>
    exact hb.of_eq (filterMap_record rfl _) (fun _ => filterMap_record rfl _) rfl rfl
  | concluded o hr =>
    exact hb.of_eq (filterMap_settle ⟨fun _ _ => rfl, fun _ => rfl⟩ _ _ _ _)
      (fun _ => filterMap_settle ⟨fun _ _ => rfl, fun _ => rfl⟩ _ _ _ _) rfl rfl
  | close hr hc =>
    have hd : r.isDisposed = false := by
      rw [Run.isDisposed, hr]
      rfl
    have hfiles : removedIn (r.closed s).events ++ [] = removedIn r.events ++ r.temporaries := by
      rw [removedIn_closed, List.append_nil]
    refine ⟨?_, fun path => ?_, fun h => ?_, fun _ => rfl⟩
    · exact hfiles ▸ hb.distinct
    · have hl := filterMap_closed_eq (f := Event.tracking? path) ⟨fun _ _ => rfl, fun _ => rfl⟩
        (fun _ => rfl) s r
      change Listed (removedIn (r.closed s).events ++ []) path ↔ _
      rw [hfiles, hb.last, lastTracking, lastTracking, hl]
    · cases h

end FilesBalance

/-! ### At every moment -/

lemma Moment.callbacks (hr : Moment s r) : CallbacksBalance r := by
  refine hr.induction (fun args w => ?_) fun h hb => hb.move h
  have hq := quiet_start (s := s) args w
  exact CallbacksBalance.bookkeeping (.quiet hq) ⟨rfl, fun _ => rfl⟩

lemma Moment.resources (hr : Moment s r) : ResourcesBalance r := by
  refine hr.induction (fun args w => ?_) fun h hb => hb.move h
  have hq := quiet_start (s := s) args w
  exact ResourcesBalance.bookkeeping (.quiet hq) ⟨rfl, .nil, .nil, fun _ => rfl⟩

lemma Moment.files (hr : Moment s r) : FilesBalance r := by
  refine hr.induction (fun args w => ?_) fun h hb => hb.move h
  have hq := quiet_start (s := s) args w
  refine FilesBalance.bookkeeping (.quiet hq) ⟨.nil, fun path => ?_, fun _ => rfl, fun _ => rfl⟩
  exact iff_of_false Bool.false_ne_true (Option.some_ne_none _).symm

end ScriptRun
