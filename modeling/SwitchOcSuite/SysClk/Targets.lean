import SwitchOcSuite.SysClk.ClockManager

/-!
# Setting the target clocks

The loop of `Tick` changes clocks, what is remembered of them, and the bounds of
the governor (`Retuned`).  `GetHz` looks at none of these, so every module is set
to the target that it has when the loop starts (`applyClocks_ok`).
-/

namespace SwitchOc.SysClk.ClockManager

open Function Traced

variable {H : Type} {P : Hardware H}

/-! ## What the loop leaves alone -/

/-- `s` with other clocks, and other bounds for the governor. -/
def Retuned (s s' : ClockManager H) : Prop :=
  ∃ g freqs hw, g.config = s.governor.config ∧
    s' = { s with governor := g, context := { s.context with freqs := freqs }, hw := hw }

namespace Retuned

variable {s s' s'' : ClockManager H}

theorem refl (s : ClockManager H) : Retuned s s := ⟨s.governor, s.context.freqs, s.hw, rfl, rfl⟩

theorem trans (h : Retuned s s') (h' : Retuned s' s'') : Retuned s s'' := by
  obtain ⟨g, freqs, hw, hg, rfl⟩ := h
  obtain ⟨g', freqs', hw', hg', rfl⟩ := h'
  exact ⟨g', freqs', hw', hg'.trans hg, rfl⟩

theorem getHz (h : Retuned s s') (module : SysClkModule) : s'.getHz module = s.getHz module := by
  obtain ⟨g, freqs, hw, -, rfl⟩ := h
  rfl

theorem cap (h : Retuned s s') (module : SysClkModule) : s'.cap module = s.cap module := by
  obtain ⟨g, freqs, hw, -, rfl⟩ := h
  rfl

theorem skipBoost (h : Retuned s s') (module : SysClkModule) (hz : UInt32) :
    s'.skipBoost module hz = s.skipBoost module hz := by
  obtain ⟨g, freqs, hw, -, rfl⟩ := h
  rfl

theorem isHandledByGovernor (h : Retuned s s') (module : SysClkModule) :
    s'.governor.isHandledByGovernor module = s.governor.isHandledByGovernor module := by
  obtain ⟨g, freqs, hw, hg, rfl⟩ := h
  show getGovernorEnabled g.config module = _
  rw [hg]
  rfl

theorem enabled (h : Retuned s s') : s'.context.enabled = s.context.enabled := by
  obtain ⟨g, freqs, hw, -, rfl⟩ := h
  rfl

theorem needsSetting (h : Retuned s s') {module : SysClkModule}
    (hfreq : s'.context.freqs module = s.context.freqs module) (hz : UInt32) :
    s'.needsSetting module hz = s.needsSetting module hz := by
  unfold ClockManager.needsSetting
  rw [hfreq, h.isHandledByGovernor, h.skipBoost]

end Retuned

/-! ## One turn -/

theorem setMaxHz_config {isMariko : Bool} {maxHz : UInt32} {module : SysClkModule}
    {g g' : Governor} (h : g.setMaxHz isMariko maxHz module = .ok g') : g'.config = g.config := by
  unfold Governor.setMaxHz at h
  dsimp only at h
  split at h
  · rw [← Except.ok.inj h]
    cases module <;> rfl
  · split at h
    · cases h
    · rw [← Except.ok.inj h]
      cases module <;> rfl

theorem setGovernorBounds_ok {module : SysClkModule} {hz : UInt32} {s : ClockManager H}
    (h : (setGovernorBounds module hz s).result = .ok ()) :
    ∃ g, g.config = s.governor.config ∧
      (setGovernorBounds module hz s).state = { s with governor := g } := by
  unfold setGovernorBounds at h ⊢
  rw [sets_bind_run, gets_bind_run] at h ⊢
  obtain ⟨g, hg, -⟩ := bind_ok_iff.1 h
  rw [bind_of_ok hg]
  have hconfig : g.config = _ := setMaxHz_config hg
  by_cases hcpu : module = .cpu
  · rw [if_pos hcpu] at hconfig ⊢
    exact ⟨g, hconfig, rfl⟩
  · rw [if_neg hcpu] at hconfig ⊢
    exact ⟨g, hconfig, rfl⟩

/-- The clock of the module is set to the target, if that is needed. -/
theorem applyClock_ok {module : SysClkModule} {s : ClockManager H}
    (h : (applyClock P module s).result = .ok ()) :
    ∃ hz, s.getHz module = .ok hz ∧ Retuned s (applyClock P module s).state ∧
      (applyClock P module s).state.hw =
        (if s.needsSetting module hz then P.setClockRate s.hw module hz else s.hw) ∧
      ∀ m, m ≠ module → (applyClock P module s).state.context.freqs m = s.context.freqs m := by
  unfold applyClock at h ⊢
  rw [gets_bind_run] at h ⊢
  obtain ⟨hz, hhz, h⟩ := bind_ok_iff.1 h
  rw [bind_of_ok hhz, after_state, ofExcept_run]
  rw [ofExcept_run] at h
  obtain ⟨u, hbounds, h⟩ := bind_ok_iff.1 h
  obtain ⟨g, hg, hstate⟩ := setGovernorBounds_ok hbounds
  have hbounded : Retuned s { s with governor := g } := ⟨g, s.context.freqs, s.hw, hg, rfl⟩
  rw [bind_of_ok hbounds, after_state, hstate, gets_bind_run]
  rw [hbounded.needsSetting rfl]
  refine ⟨hz, hhz, ?_⟩
  by_cases hneeded : s.needsSetting module hz = true
  · rw [if_pos hneeded, if_pos hneeded]
    refine ⟨⟨g, _, _, hg, rfl⟩, rfl, fun m hm => update_of_ne hm _ _⟩
  · rw [if_neg hneeded, if_neg hneeded]
    exact ⟨hbounded, rfl, fun _ _ => rfl⟩

/-! ## The whole loop -/

/-- Hardware that runs a clock at the rate it is set to, and the others as before. -/
structure Honours (P : Hardware H) : Prop where
  get_set : ∀ hw m hz, P.getClockRate (P.setClockRate hw m hz) m = hz
  get_set_of_ne : ∀ hw m hz m', m' ≠ m →
    P.getClockRate (P.setClockRate hw m hz) m' = P.getClockRate hw m'

theorem honours_exact : Honours Hardware.exact where
  get_set hw m hz := by
    show update hw m hz m = hz
    rw [update_self]
  get_set_of_ne hw m hz m' h := by
    show update hw m hz m' = hw m'
    rw [update_of_ne h]

/-- Each module of the loop runs at its target if that had to be set, and the rest as before. -/
theorem applyClocks_ok (hP : Honours P) {ms : List SysClkModule} (hnd : ms.Nodup) :
    ∀ {s s' : ClockManager H}, (Prog.forEach ms (applyClock P) s).result = .ok () →
      (Prog.forEach ms (applyClock P) s).state = s' →
      Retuned s s' ∧ (∀ m, m ∉ ms → P.getClockRate s'.hw m = P.getClockRate s.hw m) ∧
        ∀ m ∈ ms, ∀ hz, s.getHz m = .ok hz → P.getClockRate s'.hw m =
          if s.needsSetting m hz then hz else P.getClockRate s.hw m := by
  induction ms with
  | nil =>
    rintro s s' - rfl
    refine ⟨Retuned.refl s, fun _ _ => rfl, ?_⟩
    intro m hm
    cases hm
  | cons module ms ih =>
    intro s s' h hs'
    obtain ⟨hnotin, hnd⟩ := List.nodup_cons.1 hnd
    rw [forEach_cons] at h hs'
    obtain ⟨u, hturn, hrest⟩ := bind_ok_iff.1 h
    obtain ⟨hz, hhz, hretuned, hhw, hfreqs⟩ := applyClock_ok hturn
    rw [bind_of_ok hturn, after_state] at hs'
    generalize (applyClock P module s).state = s₁ at hrest hs' hretuned hhw hfreqs
    obtain ⟨hretuned', hothers, hset⟩ := ih hnd hrest hs'
    have hkept : ∀ m, m ≠ module → P.getClockRate s₁.hw m = P.getClockRate s.hw m := by
      intro m hm
      rw [hhw]
      split
      · exact hP.get_set_of_ne _ _ _ _ hm
      · rfl
    refine ⟨hretuned.trans hretuned', ?_, ?_⟩
    · intro m hm
      obtain ⟨hne, hm⟩ := not_or.1 (mt List.mem_cons.2 hm)
      rw [hothers m hm, hkept m hne]
    · intro m hm hz' hhz'
      rcases List.mem_cons.1 hm with rfl | hmem
      · obtain rfl : hz = hz' := Except.ok.inj (hhz.symm.trans hhz')
        rw [hothers m hnotin, hhw]
        split
        · exact hP.get_set _ _ _
        · rfl
      · have hne : m ≠ module := by
          rintro rfl
          exact hnotin hmem
        rw [hset m hmem hz' ((hretuned.getHz m).trans hhz'),
          hretuned.needsSetting (hfreqs m hne), hkept m hne]

/-- A tick that does not fail: `RefreshContext` returns, and then, unless nothing has
changed or the manager is off, the loop. -/
theorem tick_ok {E : Environment} {s : ClockManager H} (h : (tick P E s).result = .ok ()) :
    ∃ hasChanged, (refreshContext P E s).result = .ok hasChanged ∧
      if hasChanged && (refreshContext P E s).state.context.enabled then
        (Prog.forEach SysClkModule.all (applyClock P) (refreshContext P E s).state).result = .ok () ∧
          (tick P E s).state =
            (Prog.forEach SysClkModule.all (applyClock P) (refreshContext P E s).state).state
      else (tick P E s).state = (refreshContext P E s).state := by
  unfold tick at h ⊢
  obtain ⟨hasChanged, hrefresh, h⟩ := bind_ok_iff.1 h
  refine ⟨hasChanged, hrefresh, ?_⟩
  rw [bind_of_ok hrefresh, after_state]
  rw [gets_bind_run] at h ⊢
  split
  · rename_i hrun
    rw [if_pos hrun] at h
    exact ⟨h, rfl⟩
  · rfl

end SwitchOc.SysClk.ClockManager
