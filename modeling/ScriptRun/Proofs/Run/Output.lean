import ScriptRun.Proofs.Run.Buffer

/-!
# No output is lost

What a run writes goes to a host in memory, be it that code asks for it or that a raw file is
included. Others may use the host too, such as what is released in the end. So far as everything
that is not the run touches the host by calls only, the host is at every moment what all calls so
far have made of it, in their order: all output is there, each part once, and nothing else.

A moment is any state in which something is done in the course of a run, however deep and whether or
not the code that does it comes to an end.
-/

namespace ScriptRun

variable {κ σ : Type} {s : Setting κ σ} {r r' : Run κ σ}

namespace Buffer

/-! ### Every moment of a run -/

variable {b : Buffer σ} {w : σ} {cs : List (HostCall ⊕ HostCall)} {ds : List (Deed κ σ)}
  {last : Option (Run κ σ)} {session : Bool} {args : Option (List String)}

/-- From one deed to any later moment. -/
lemma calls_along {d : Deed κ σ} (h : Along (b.Conserves s) d.op d.run ds last)
    (hd : b.Sound d.run) {n : Nat} (hn : (states ds last)[n]? = some r) :
    b.Sound r ∧ ∃ cs, b.Calls cs d.run.world r.world ∧ s.WritesAll (d :: ds.take n) (own cs) := by
  -- on the deeds in between: what each one writes is put behind what comes before
  induction ds generalizing d n with
  | nil =>
    cases last with
    | none => cases hn
    | some r' =>
      cases n with
      | zero =>
        cases hn
        obtain ⟨hr, cs, hcalls, hwrites⟩ := h hd
        exact ⟨hr, cs, hcalls, own cs, [], (List.append_nil _).symm, hwrites, rfl⟩
      | succ n => cases hn
  | cons d' ds ih =>
    obtain ⟨hd', cs, hcalls, hwrites⟩ := h.1 hd
    cases n with
    | zero =>
      cases hn
      exact ⟨hd', cs, hcalls, own cs, [], (List.append_nil _).symm, hwrites, rfl⟩
    | succ n =>
      obtain ⟨hr, cs', hcalls', hrest⟩ := ih h.2 hd' hn
      exact ⟨hr, cs ++ cs', hcalls.trans hcalls', own cs, own cs', own_append, hwrites, hrest⟩

lemma exists_deed_of_lt {m n : Nat} (h : m < n) (hm : (states ds last)[m]? = some r)
    (hn : (states ds last)[n]? = some r') : ∃ d, ds[m]? = some d ∧ d.run = r := by
  have hlt : m < ds.length := by
    have hn' : n < (states ds last).length := (List.getElem?_eq_some_iff.1 hn).1
    rw [states, List.length_append, List.length_map] at hn'
    have hlast : last.toList.length ≤ 1 := last.length_toList_le
    omega
  rw [states, List.getElem?_append_left (by simpa using hlt), List.getElem?_map] at hm
  exact Option.map_eq_some_iff.1 hm

lemma states_length (ds : List (Deed κ σ)) (r : Run κ σ) :
    (states ds (some r))[ds.length]? = some r := by
  simp [states]

lemma states_drop {m : Nat} (h : m ≤ ds.length) :
    states (ds.drop m) last = (states ds last).drop m := by
  rw [states, states, List.drop_append_of_le_length (by simpa using h), List.map_drop]

/-- From one moment to a later one what is asked for begins with what is asked for in the first. -/
lemma drop_take_eq_cons {m n : Nat} {d : Deed κ σ} (h : m < n) (hd : ds[m]? = some d) :
    (ds.take n).drop m = d :: (ds.drop (m + 1)).take (n - (m + 1)) := by
  obtain ⟨hm, rfl⟩ := List.getElem?_eq_some_iff.1 hd
  have hsucc : n - m = n - (m + 1) + 1 := by omega
  rw [List.drop_take, List.drop_eq_getElem_cons hm, hsucc, List.take_succ_cons]

/-- Code that asks for such operations only does so in every run. -/
lemma respects_of_asks {d : Deed κ σ} (h : d.Asks b.Allows) : b.Respects d := by
  obtain ⟨context, vars, r, o⟩ := d
  cases o with
  | none => trivial
  | some op =>
    have hop : b.Allows op := h op rfl
    cases op with
    | act f => exact hop r.world
    | keep resource => exact hop
    | _ => trivial

lemma sound_blank (app : Application κ) : b.Sound (Run.blank app w) := by
  constructor
  · intro x hx
    cases hx
  · intro hd
    cases hd

/-- The session is closed once if there is one. -/
lemma Sound.sessionsClosed (hr : b.Sound r) (hw : b.host w = .new session)
    (hcalls : b.Calls cs w r.world) (hd : r.isDisposed = true) :
    (b.host r.world).sessionsClosed = session.toNat := by
  have hclosable := MemoryHost.closable_after (b.host w) (merged cs)
  rw [← hcalls.host, MemoryHost.closable, hr.closed hd, hw] at hclosable
  exact hclosable.trans (Nat.zero_add _)

/-- At every moment in the course of a run, what its host has sent on and what is pending make up
the output of all calls so far, in their order: those of the run, which write what code has asked
for and what the raw files hold that have been included, no more and no less, and those of others.
From one moment to a later one what has been sent on only grows at its end. When the run is
disposed, the session has been closed once if there was one, and right after a teardown nothing is
pending, if sink and streams bring no output of their own then. This is under the assumption on
sinks: with one that panics amid the teardown, output could stay pending. -/
theorem output_conserved (hb : b.Serves s) (hhost : b.host w = .new session)
    (hnoted : b.noted w = []) (h : s.Course args w ds last) (hds : ∀ d ∈ ds, b.Respects d) :
    (∀ n r, (states ds last)[n]? = some r → ∃ cs, s.WritesAll (ds.take n) (own cs) ∧
      b.noted r.world = cs.filterMap Sum.getRight? ∧
      (b.host r.world).flushed ++ (b.host r.world).pending =
        (merged cs).flatMap HostCall.output ∧
      (r.isDisposed = true → (b.host r.world).sessionActive = false ∧
        (b.host r.world).sessionsClosed = session.toNat)) ∧
    (∀ m n r r', m ≤ n → (states ds last)[m]? = some r → (states ds last)[n]? = some r' →
      (b.host r.world).flushed <+: (b.host r'.world).flushed ∧
      ∃ cs, s.WritesAll ((ds.take n).drop m) (own cs) ∧ b.Calls cs r.world r'.world) ∧
    ((∀ d w, b.host (s.sink d w) = b.host w) →
      (∀ path w, b.host (s.streams.remove path w).2 = b.host w) →
        ∀ call fuel (r : Run κ σ) o r', r.isTorn = false → r.dispose s call fuel = some (o, r') →
          r'.isDisposed = true ∧ (b.host r'.world).pending = []) ∧
    (∀ ds data data', s.WritesAll ds data → s.WritesAll ds data' → data = data') ∧
    (∀ depth g (r : Run κ σ), (s.followRun depth g r).result = s.run depth g r) ∧
    ∀ (depth fuel : Nat) (r : Run κ σ),
      (r.followDispose s (s.follow depth) fuel).result = r.dispose s (s.invoke depth) fuel := by
  have halong : Along (b.Conserves s) none (Run.blank s.app w) ds last :=
    (h.along (paces hb) hds).head (conserves_start hb args w)
  refine ⟨?_, ?_, ?_, fun ds data data' => Setting.writesAll_unique, s.result_followRun, ?_⟩
  · intro n r hn
    obtain ⟨hsound, cs, hcalls, first, rest, hsplit, rfl, hrest⟩ :=
      calls_along (d := .glance (Run.blank s.app w)) halong (sound_blank s.app) hn
    refine ⟨cs, hsplit ▸ hrest, ?_, ?_, ?_⟩
    · simpa [Deed.glance, Run.blank, hnoted] using hcalls.noted
    · have htaken := MemoryHost.taken_after (b.host w) (merged cs)
      rw [hcalls.host]
      exact htaken.trans (by rw [hhost]; rfl)
    · intro hd
      exact ⟨hsound.closed hd, hsound.sessionsClosed hhost hcalls hd⟩
  · intro m n r r' hmn hm hn
    rcases Nat.eq_or_lt_of_le hmn with rfl | hlt
    · obtain rfl : r = r' := Option.some.inj (hm.symm.trans hn)
      refine ⟨List.prefix_rfl, [], ?_, .refl b r.world⟩
      rw [List.drop_eq_nil_of_le (List.length_take_le m ds)]
      rfl
    · obtain ⟨d, hd, rfl⟩ := exists_deed_of_lt hlt hm hn
      have hsound : b.Sound d.run :=
        (calls_along (d := .glance (Run.blank s.app w)) halong (sound_blank s.app) hm).1
      have hlast : (states (ds.drop (m + 1)) last)[n - (m + 1)]? = some r' := by
        rw [states_drop (List.getElem?_eq_some_iff.1 hd).1, List.getElem?_drop]
        rwa [Nat.add_sub_cancel' hlt]
      obtain ⟨-, cs, hcalls, hwrites⟩ := calls_along (halong.drop hd) hsound hlast
      refine ⟨hcalls.flushed_prefix, cs, ?_, hcalls⟩
      rw [drop_take_eq_cons hlt hd]
      exact hwrites
  · intro hsink hremove call fuel r o r' ht hdispose
    obtain ⟨p, hteardown⟩ := Run.teardown_of_dispose hdispose
    rw [Run.teardown_of_not_isTorn s call fuel ht] at hteardown
    obtain ⟨u, -, heq⟩ := Option.map_eq_some_iff.1 hteardown
    cases heq
    exact ⟨rfl, pending_closed hb hsink hremove u.run⟩
  · intro depth fuel r
    exact Run.result_followDispose (s.tells_follow depth) r

/-! ### A run in which much is written -/

/-- A host in memory next to the record of the calls that others have made on it. -/
def beside : Buffer (MemoryHost × List HostCall) := ⟨Prod.fst, Prod.snd⟩

/-- Writes to the host itself and then panics. -/
def parting : Resource (MemoryHost × List HostCall) :=
  ⟨fun w => (.panic (.text "gone"), w.1.write [5], w.2 ++ [.write [5]])⟩

end Buffer

/-- A script that writes, flushes, includes a raw file, keeps something and fails. Its callback
writes, closes the session and panics. -/
def Setting.talking : Setting Bool (MemoryHost × List HostCall) where
  app := { Application.empty with scripts := ⟨[⟨0, "main", true⟩]⟩ }
  options := .standard
  host := MemoryHost.hooks Prod.fst fun h w => (h, w.2)
  streams :=
    { read := fun _ w => (.ok [2, 3], w)
      remove := fun _ w => (.error .notFound, w) }
  sink := fun _ w => w
  autoload := none
  code := fun main _ =>
    if main then
      .ask (.write [1]) fun _ => .ask .flush fun _ =>
        .ask (.includeGlobal "raw.txt" false false) fun _ => .ask (.keep Buffer.parting) fun _ =>
          .ask (.onShutdown false) fun _ => .done (.error (.script "main failed"))
    else .ask (.write [4]) fun _ => .ask .closeSession fun _ => .done (.panic (.text "bye"))
  search := fun _ _ _ => .done (.ok none)

/-- Run the script and dispose of the run. -/
def Guest.talk : Guest Bool (MemoryHost × List HostCall) :=
  .ask (.runEntry "main") fun _ => .ask .dispose fun _ => .done (.ok .null)

namespace Buffer

lemma admits_parting : beside.Admits parting := fun _ => ⟨[.write [5]], rfl, rfl⟩

lemma serves_talking : beside.Serves Setting.talking where
  write _ w := ⟨rfl, (List.append_nil w.2).symm⟩
  flush w := ⟨rfl, (List.append_nil w.2).symm⟩
  closeSession w := ⟨rfl, (List.append_nil w.2).symm⟩
  sink _ w := .refl beside w
  read _ w := .refl beside w
  remove _ w := .refl beside w
  search _ _ _ := trivial

lemma asks_talk : Guest.talk.Asks beside.Allows := ⟨trivial, fun _ => ⟨trivial, fun _ => trivial⟩⟩

lemma asks_talking (label : Bool) (input : Input) :
    (Setting.talking.code label input).Asks beside.Allows := by
  cases label with
  | false => exact ⟨trivial, fun _ => ⟨trivial, fun _ => trivial⟩⟩
  | true =>
    refine ⟨trivial, fun _ => ⟨trivial, fun _ => ⟨trivial, fun _ => ?_⟩⟩⟩
    exact ⟨admits_parting, fun _ => ⟨trivial, fun _ => trivial⟩⟩

/-- All that is written gets to be sent on, by whomever and when, and the session is closed once. -/
theorem output_conserved_talking :
    (∃ ds r, Setting.talking.Course none (.new true, []) ds (some r) ∧
      (∃ cs, Setting.talking.WritesAll ds (own cs) ∧ r.world.2 = cs.filterMap Sum.getRight? ∧
        r.world.1.flushed ++ r.world.1.pending = (merged cs).flatMap HostCall.output) ∧
      r.world.1.flushed = [1, 2, 3, 4, 5] ∧ r.world.1.sessionsClosed = 1) ∧
    ∃ o r', Run.dispose Setting.talking (Setting.talking.invoke 2) 2
        ((Setting.talking.start none (.new true, [])).onShutdown false) = some (o, r') ∧
      r'.world.1.pending = [] := by
  obtain ⟨r, hrun, hd, hflushed⟩ : ∃ r,
      Setting.talking.run 4 .talk (Setting.talking.start none (.new true, [])) =
          some (.ok .null, r) ∧
        r.isDisposed = true ∧ r.world.1.flushed = [1, 2, 3, 4, 5] := ⟨_, rfl, rfl, rfl⟩
  have hstart : Setting.talking.Course none (.new true, []) []
      (some (Setting.talking.start none (.new true, []))) := .start
  have hcourse := hstart.run 4 .talk
  have hasks := Setting.asks_followRun asks_talking asks_talk 4
    (Setting.talking.start none (.new true, []))
  rw [Setting.result_followRun, hrun] at hcourse
  generalize (Setting.talking.followRun 4 .talk
    (Setting.talking.start none (.new true, []))).deeds = ds at hcourse hasks
  have hrespects : ∀ d ∈ Deed.glance (Setting.talking.start none (.new true, [])) :: ds,
      beside.Respects d := by
    refine List.forall_mem_cons.2 ⟨trivial, fun d hd => ?_⟩
    exact respects_of_asks (hasks d hd)
  obtain ⟨hmoments, -, hpending, -⟩ :=
    output_conserved serves_talking rfl rfl hcourse hrespects
  obtain ⟨cs, hwrites, hnoted, houtput, hsession⟩ := hmoments _ r (states_length _ r)
  rw [List.take_length] at hwrites
  constructor
  · exact ⟨_, r, hcourse, ⟨cs, hwrites, hnoted, houtput⟩, hflushed, (hsession hd).2⟩
  · obtain ⟨o, r', hdispose⟩ : ∃ o r', Run.dispose Setting.talking (Setting.talking.invoke 2) 2
        ((Setting.talking.start none (.new true, [])).onShutdown false) = some (o, r') :=
      ⟨_, _, rfl⟩
    refine ⟨o, r', hdispose, ?_⟩
    exact (hpending (fun _ _ => rfl) (fun _ _ => rfl) _ _ _ o r' rfl hdispose).2

end Buffer

end ScriptRun
