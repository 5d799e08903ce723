/-
What the dashboard shows.

Two kinds of widget stand side by side.  The dot, the clock and the badge are polled: the
page keeps what it drew last, and draws again what has changed.  A note of the readings
says what is then on the panel: it follows the clock and the battery from one drawing to
the next, and knows nothing of what the page keeps.  The switches are drawn on taps.  A tap draws what
it commands, so a switch goes on telling what its hub was told last, from any state in which
it did; but a page that is opened takes its switches from the telegrams that went out, and
these lag behind the command.
-/
import MK1Tank.Firmware.Dashboard
import MK1Tank.Proofs.Sleep
import MK1Tank.Proofs.EditorCap

namespace MK1Tank

open FileProgram Runs

/-! ### Drawing what changed -/

/-- What the drawings of the dashboard have read: the clock and the band of the battery at the last
one, and the readings that the text and the badge were written from. -/
structure DrawNote where
  clock : DrawClock
  band : BatteryState
  text : UInt32
  volts : ℚ
  blink : UInt32

/-- A page that is opened is written from what is read then. -/
def DrawNote.opened (clock : DrawClock) (b : Battery) : DrawNote where
  clock := clock
  band := batteryStateFor b.smoothedV
  text := clock.text
  volts := b.smoothedV
  blink := blinkPhase clock

/-- The badge would look the same, but for the voltage. -/
def DrawNote.Stands (n : DrawNote) (clock : DrawClock) (b : Battery) : Prop :=
  batteryStateFor b.smoothedV = n.band ∧ (n.band = .critical → blinkPhase clock = blinkPhase n.clock)

instance (n : DrawNote) (clock : DrawClock) (b : Battery) : Decidable (n.Stands clock b) :=
  inferInstanceAs (Decidable (_ ∧ (_ → _)))

/-- Later the text is written in each new second, and the badge when it would look different. -/
def DrawNote.updated (n : DrawNote) (clock : DrawClock) (b : Battery) : DrawNote where
  clock := clock
  band := batteryStateFor b.smoothedV
  text := if clock.second / 1000 = n.clock.second / 1000 then n.text else clock.text
  volts := if n.Stands clock b then n.volts else b.smoothedV
  blink := if n.Stands clock b then n.blink else blinkPhase clock

/-- What the page keeps goes with the readings. -/
structure Dashboard.Keeps (n : DrawNote) (dash : Dashboard) : Prop where
  dot : dash.xwcDot = dash.lastXwcColorDrawn
  second : dash.lastUptimeDrawnSec = n.clock.second / 1000
  uptime : dash.uptimeText = formatUptime n.text
  state : dash.lastBatteryStateDrawn = n.band
  phase : dash.lastBatteryBlinkPhaseDrawn = n.blink
  badge : dash.badge = some (badgeFor n.volts n.blink)
  band : batteryStateFor n.volts = n.band
  /-- Only a critical badge blinks. -/
  blinks : n.band = .critical → n.blink = blinkPhase n.clock

/-- The page shows the controller as it is, the band of the battery as it is, and the text and the
badge of the readings they were written from. -/
structure Dashboard.Current (n : DrawNote) (b : Battery) (note : XwcState) (dash : Dashboard) :
    Prop where
  dot : dash.xwcDot = xwcColor note
  uptime : dash.uptimeText = formatUptime n.text
  badge : dash.badge = some (badgeFor n.volts n.blink)
  band : batteryStateFor n.volts = batteryStateFor b.smoothedV
  blinks : batteryStateFor b.smoothedV = .critical → n.blink = blinkPhase n.clock

theorem drawUptime_cases (clock : DrawClock) (force : Bool) (dash : Dashboard) :
    (force = false ∧ clock.second / 1000 = dash.lastUptimeDrawnSec ∧
        drawUptime clock force dash = dash) ∨
      drawUptime clock force dash = { dash with
        lastUptimeDrawnSec := clock.second / 1000
        uptimeText := formatUptime clock.text } := by
  unfold drawUptime
  simp only
  split
  · rename_i h
    simp only [Bool.and_eq_true, Bool.not_eq_true', beq_iff_eq] at h
    exact Or.inl ⟨h.1, h.2, rfl⟩
  · exact Or.inr rfl

theorem Dashboard.Keeps.current {n : DrawNote} {b : Battery} {note : XwcState} {dash : Dashboard}
    (h : dash.Keeps n) (hdot : dash.xwcDot = xwcColor note)
    (hband : n.band = batteryStateFor b.smoothedV) : dash.Current n b note where
  dot := hdot
  uptime := h.uptime
  badge := h.badge
  band := h.band.trans hband
  blinks hcritical := h.blinks (hband.trans hcritical)

/-- The clock's text is that of the reading at which the second was last a new one. -/
theorem drawUptime_text (clock : DrawClock) {n : DrawNote} {dash : Dashboard}
    (hsecond : dash.lastUptimeDrawnSec = n.clock.second / 1000)
    (huptime : dash.uptimeText = formatUptime n.text) (b : Battery) :
    (drawUptime clock false dash).lastUptimeDrawnSec = clock.second / 1000 ∧
      (drawUptime clock false dash).uptimeText = formatUptime (n.updated clock b).text ∧
      drawUptime clock false dash = { dash with
        lastUptimeDrawnSec := (drawUptime clock false dash).lastUptimeDrawnSec
        uptimeText := (drawUptime clock false dash).uptimeText } := by
  unfold drawUptime DrawNote.updated
  by_cases hsame : clock.second / 1000 = n.clock.second / 1000
  · have hskip : (!false && clock.second / 1000 == dash.lastUptimeDrawnSec) = true := by
      simp [hsecond, hsame]
    simp only [hskip, if_true, if_pos hsame]
    exact ⟨hsecond.trans hsame.symm, huptime, trivial⟩
  · have hdraw : (!false && clock.second / 1000 == dash.lastUptimeDrawnSec) = false := by
      simp [hsecond, hsame]
    simp only [hdraw, Bool.false_eq_true, if_false, if_neg hsame, and_self]

/-- The badge is that of the reading at which it last looked different. -/
theorem drawBatteryBadge_note (clock : DrawClock) {b : Battery} {n : DrawNote} {dash : Dashboard}
    (h : dash.Keeps n) (hreading : b.hasReading = true) (later : Dashboard)
    (hstate : later.lastBatteryStateDrawn = n.band)
    (hphase : later.lastBatteryBlinkPhaseDrawn = n.blink) :
    drawBatteryBadge clock b false later =
      if n.Stands clock b then later
      else { later with
        lastBatteryStateDrawn := batteryStateFor b.smoothedV
        lastBatteryBlinkPhaseDrawn := blinkPhase clock
        badge := some (badgeFor b.smoothedV (blinkPhase clock)) } := by
  have hdraws : n.Stands clock b ↔
      (!false && batteryStateFor b.smoothedV == later.lastBatteryStateDrawn &&
        !(batteryStateFor b.smoothedV == .critical &&
          blinkPhase clock != later.lastBatteryBlinkPhaseDrawn)) = true := by
    rw [hstate, hphase]
    unfold DrawNote.Stands
    constructor
    · rintro ⟨hband, hblinks⟩
      simp only [hband, Bool.not_false, beq_self_eq_true, Bool.true_and, Bool.not_eq_true',
        Bool.and_eq_false_iff, beq_eq_false_iff_ne, bne_eq_false_iff_eq]
      by_cases hcritical : n.band = .critical
      · exact Or.inr ((hblinks hcritical).trans (h.blinks hcritical).symm)
      · exact Or.inl hcritical
    · intro hsame
      simp only [Bool.not_false, Bool.true_and, Bool.and_eq_true, beq_iff_eq, Bool.not_eq_true',
        Bool.and_eq_false_iff, beq_eq_false_iff_ne, bne_eq_false_iff_eq] at hsame
      obtain ⟨hband, hcalm | hblink⟩ := hsame
      · exact ⟨hband, fun hcritical => absurd (hband.trans hcritical) hcalm⟩
      · exact ⟨hband, fun hcritical => hblink.trans (h.blinks hcritical)⟩
  unfold drawBatteryBadge
  simp only [hreading, Bool.not_true, Bool.false_eq_true, if_false]
  by_cases hstands : n.Stands clock b
  · rw [if_pos (hdraws.mp hstands), if_pos hstands]
  · rw [if_neg fun hsame => hstands (hdraws.mpr hsame), if_neg hstands]

/-- **Drawing what changed leaves the page current.** -/
theorem updateDashboard_current (clock : DrawClock) {b : Battery} (s : Sketch) {dash : Dashboard}
    {n : DrawNote} (h : dash.Keeps n) (hreading : b.hasReading = true) :
    (updateDashboard clock b s dash).Keeps (n.updated clock b) ∧
      (updateDashboard clock b s dash).Current (n.updated clock b) b s.xwcState := by
  obtain ⟨drawn, heq, hdrawn, hnote⟩ : ∃ drawn : Dashboard, updateDashboard clock b s dash =
        drawBatteryBadge clock b false (drawUptime clock false drawn) ∧ drawn.Keeps n ∧
        drawn.xwcDot = xwcColor s.xwcState := by
    refine ⟨_, rfl, ?_⟩
    split
    · exact ⟨⟨rfl, h.second, h.uptime, h.state, h.phase, h.badge, h.band, h.blinks⟩, rfl⟩
    · rename_i hsame
      exact ⟨h, h.dot.trans (not_not.mp hsame).symm⟩
  obtain ⟨hsecond, htext, htimed⟩ := drawUptime_text clock hdrawn.second hdrawn.uptime b
  have hbadge := drawBatteryBadge_note clock hdrawn hreading (drawUptime clock false drawn)
    (by rw [htimed]; exact hdrawn.state) (by rw [htimed]; exact hdrawn.phase)
  have hkeeps : (updateDashboard clock b s dash).Keeps (n.updated clock b) ∧
      (updateDashboard clock b s dash).xwcDot = xwcColor s.xwcState := by
    rw [heq, hbadge]
    by_cases hstands : n.Stands clock b
    · rw [if_pos hstands]
      refine ⟨⟨?_, hsecond, htext, ?_, ?_, ?_, ?_, ?_⟩, ?_⟩
      · rw [htimed]
        exact hdrawn.dot
      · rw [htimed]
        exact hdrawn.state.trans hstands.1.symm
      · rw [htimed]
        exact hdrawn.phase.trans (if_pos hstands).symm
      · rw [htimed]
        simp only [DrawNote.updated, if_pos hstands]
        exact hdrawn.badge
      · simp only [DrawNote.updated, if_pos hstands]
        exact hdrawn.band.trans hstands.1.symm
      · intro hcritical
        simp only [DrawNote.updated, if_pos hstands] at hcritical ⊢
        have hband := hstands.1.symm.trans hcritical
        exact (hdrawn.blinks hband).trans (hstands.2 hband).symm
      · rw [htimed]
        exact hnote
    · rw [if_neg hstands]
      refine ⟨⟨?_, hsecond, htext, rfl, ?_, ?_, ?_, ?_⟩, ?_⟩
      · rw [htimed]
        exact hdrawn.dot
      · simp only [DrawNote.updated, if_neg hstands]
      · simp only [DrawNote.updated, if_neg hstands]
      · simp only [DrawNote.updated, if_neg hstands]
      · intro _
        simp only [DrawNote.updated, if_neg hstands]
      · rw [htimed]
        exact hnote
  exact ⟨hkeeps.1, hkeeps.1.current hkeeps.2 rfl⟩

theorem initDashboard_eq (clock : DrawClock) {b : Battery} (s : Sketch) (dash : Dashboard)
    (hreading : b.hasReading = true) :
    initDashboard clock b s dash =
      { lastXwcColorDrawn := xwcColor s.xwcState
        lastUptimeDrawnSec := clock.second / 1000
        lastBatteryStateDrawn := batteryStateFor b.smoothedV
        lastBatteryBlinkPhaseDrawn := blinkPhase clock
        xwcDot := xwcColor s.xwcState
        switchOn := s.live.broadcast.hubBroadcasting
        uptimeText := formatUptime clock.text
        badge := some (badgeFor b.smoothedV (blinkPhase clock)) } := by
  simp [initDashboard, drawBatteryBadge, drawUptime, drawStatusDot, hreading]

/-- Drawing the page whole leaves it current. -/
theorem initDashboard_current (clock : DrawClock) {b : Battery} (s : Sketch) (dash : Dashboard)
    (hreading : b.hasReading = true) :
    (initDashboard clock b s dash).Keeps (.opened clock b) ∧
      (initDashboard clock b s dash).Current (.opened clock b) b s.xwcState := by
  rw [initDashboard_eq clock s dash hreading]
  have hkeeps : Dashboard.Keeps (.opened clock b)
      { lastXwcColorDrawn := xwcColor s.xwcState
        lastUptimeDrawnSec := clock.second / 1000
        lastBatteryStateDrawn := batteryStateFor b.smoothedV
        lastBatteryBlinkPhaseDrawn := blinkPhase clock
        xwcDot := xwcColor s.xwcState
        switchOn := s.live.broadcast.hubBroadcasting
        uptimeText := formatUptime clock.text
        badge := some (badgeFor b.smoothedV (blinkPhase clock)) } :=
    ⟨rfl, rfl, rfl, rfl, rfl, rfl, rfl, fun _ => rfl⟩
  exact ⟨hkeeps, hkeeps.current rfl rfl⟩

/-- A tap on a row draws the row's switch, or nothing. -/
theorem drawRowTap_keeps (env : TapEnv) (before tapped : Sketch) (d : Device) {dash : Dashboard}
    {n : DrawNote} (h : dash.Keeps n) : (drawRowTap env before tapped d dash).Keeps n := by
  unfold drawRowTap animateToggleSwitch
  split_ifs
  all_goals exact ⟨h.dot, h.second, h.uptime, h.state, h.phase, h.badge, h.band, h.blinks⟩

/-- The battery has a reading from the first iteration on. -/
theorem updateBatteryReading_hasReading (now pinMv : UInt32) (b : Battery) :
    (updateBatteryReading now pinMv b).hasReading = true := by
  unfold updateBatteryReading
  split
  · rename_i h
    exact (Bool.and_eq_true_iff.mp h).1
  · rfl

/-! ### The pages of an iteration -/

/-- The sketch before the tap, with the fetch and the sweep done. -/
def Panel.swept (p : Panel) (pt : PanelTick) : Sketch :=
  (sweepHeld pt.tick (fetchControllers pt.tick p.tank)).sketch

/-- The sketch after the tap. -/
def Panel.tapped (p : Panel) (pt : PanelTick) : Sketch := tapSketch pt.tick (p.swept pt)

/-- The battery as an iteration leaves it. -/
def Panel.metered (p : Panel) (pt : PanelTick) : Battery :=
  updateBatteryReading pt.batteryMs pt.pinMv p.battery

/-- The dashboard after the tap. -/
def Panel.tapDrawn (p : Panel) (pt : PanelTick) : Dashboard :=
  drawTapped pt (p.metered pt) (p.swept pt) (p.tapped pt) p.dashboard

theorem checkCapture_page (bp : Bluepad32) (s : Sketch) :
    (checkCapture bp s).ui.currentPage = s.ui.currentPage := by
  unfold checkCapture
  split
  · rfl
  · simp only
    split
    · split
      · rfl
      · rfl
    · rfl

/-- The end of an iteration that leaves the dashboard up: it was up after the tap, and nothing has
happened since; or the idle screen was, and the controller woke the tank or the button was let go. -/
theorem pageTick_dashboard {tick : Tick} {bp : Bluepad32} {s : Sketch}
    (h : (pageTick tick bp (idleEntry tick.idleMillis s)).1.ui.currentPage = .dashboard) :
    idleEntry tick.idleMillis s = s ∧
      (s.ui.currentPage = .dashboard ∧ pageTick tick bp (idleEntry tick.idleMillis s) = (s, false) ∨
        s.ui.currentPage = .idle) := by
  unfold idleEntry at h ⊢
  split at h
  · rename_i hentered
    exfalso
    have hstays := idleTick_entered tick hentered.2.1
    have hpage : (pageTick tick bp (s.withUi (goToPage .idle tick.idleMillis))).1.ui.currentPage =
        .idle := by
      show (idleTick tick (s.withUi (goToPage .idle tick.idleMillis))).1.ui.currentPage = .idle
      have hheld : (s.withUi (goToPage .idle tick.idleMillis)).ui.idleSleepHoldActive = false := rfl
      have hnote : ¬ (s.withUi (goToPage .idle tick.idleMillis)).xwcState = .active := hentered.2.1
      unfold idleTick
      rw [if_neg hnote, hheld, if_neg Bool.false_ne_true]
      split <;> rfl
    exact absurd (hpage.symm.trans h) (by decide)
  · rename_i hstays
    simp only [if_neg hstays]
    refine ⟨trivial, ?_⟩
    unfold pageTick at h ⊢
    split at h
    · rename_i hidle
      exact Or.inr hidle
    · rename_i hcapture
      have hpage : s.ui.currentPage = .dashboard := by
        simp only at h
        split at h
        · exact h
        · exact (checkCapture_page bp s).symm.trans h
      exact absurd (hcapture.symm.trans hpage) (by decide)
    · rename_i hother
      exact Or.inl ⟨h, rfl⟩

/-- The idle screen is left for the dashboard without a word to the hubs. -/
theorem idleTick_air {tick : Tick} {s : Sketch} (hidle : s.ui.currentPage = .idle)
    (h : (idleTick tick s).1.ui.currentPage = .dashboard) : SameAir s (idleTick tick s).1 := by
  unfold idleTick at h ⊢
  split at h
  · rename_i hactive
    rw [if_pos hactive]
    exact withUi_air s _
  · rename_i hnote
    rw [if_neg hnote]
    split at h
    · rename_i hheld
      rw [if_pos hheld]
      simp only at h ⊢
      split at h
      · rename_i hreleased
        rw [if_pos hreleased]
        rfl
      · exfalso
        split at h
        all_goals exact absurd (hidle.symm.trans h) (by decide)
    · exfalso
      split at h
      all_goals exact absurd (hidle.symm.trans h) (by decide)

theorem Panel.loop_asleep {p : Panel} (h : p.tank.asleep = true) (pt : PanelTick) :
    p.loop pt = p := if_pos h

/-- An iteration that ends on the dashboard: it drew the changes, or it drew the page whole. -/
inductive ShowsDashboard (p : Panel) (pt : PanelTick) : Prop
  | stays (hpage : (p.tapped pt).ui.currentPage = .dashboard)
      (hsketch : (p.loop pt).tank.sketch = p.tapped pt)
      (hdash : (p.loop pt).dashboard =
        updateDashboard pt.clock (p.metered pt) (p.tapped pt) (p.tapDrawn pt))
  | wakes (hpage : (p.tapped pt).ui.currentPage = .idle)
      (hair : SameAir (p.tapped pt) (p.loop pt).tank.sketch)
      (hdash : (p.loop pt).dashboard =
        initDashboard pt.wakeClock (p.metered pt) (p.loop pt).tank.sketch (p.tapDrawn pt))

theorem Panel.loop_battery {p : Panel} (hawake : p.tank.asleep = false) (pt : PanelTick) :
    (p.loop pt).battery = p.metered pt := by
  unfold Panel.loop
  rw [if_neg (by simp [hawake])]
  rfl

theorem Panel.loop_dashboard {p : Panel} {pt : PanelTick} (hawake : p.tank.asleep = false)
    (h : (p.loop pt).tank.sketch.ui.currentPage = .dashboard) : ShowsDashboard p pt := by
  have hloop : p.loop pt =
      { tank := MK1Tank.loop p.tank pt.tick
        battery := p.metered pt
        dashboard := drawPageTick pt.clock pt.wakeClock (p.metered pt)
          (idleEntry pt.tick.idleMillis (p.tapped pt)) (MK1Tank.loop p.tank pt.tick).sketch
          (p.tapDrawn pt) } := by
    unfold Panel.loop
    rw [if_neg (by simp [hawake])]
    rfl
  have htank : (MK1Tank.loop p.tank pt.tick).sketch = (pageTick pt.tick
      (sweepHeld pt.tick (fetchControllers pt.tick p.tank)).bp32
      (idleEntry pt.tick.idleMillis (p.tapped pt))).1 := by
    unfold MK1Tank.loop
    rw [if_neg (by simp [hawake])]
    rfl
  have hsketch : (p.loop pt).tank.sketch = _ := (congrArg (·.tank.sketch) hloop).trans htank
  rw [hsketch] at h
  obtain ⟨hsame, ⟨hpage, hends⟩ | hidle⟩ := pageTick_dashboard h
  · refine .stays hpage ?_ ?_
    · rw [hsketch, hends]
    · rw [hloop, hsame]
      show drawPageTick _ _ _ (p.tapped pt) _ _ = _
      unfold drawPageTick
      rw [hpage]
  · rw [hsame] at hsketch htank h
    have hends : pageTick pt.tick (sweepHeld pt.tick (fetchControllers pt.tick p.tank)).bp32
        (p.tapped pt) = idleTick pt.tick (p.tapped pt) := by
      unfold pageTick
      rw [hidle]
    refine .wakes hidle ?_ ?_
    · rw [hends] at hsketch h
      rw [hsketch]
      exact idleTick_air hidle h
    · rw [hsketch, hloop, hsame]
      show drawPageTick _ _ _ (p.tapped pt) _ _ = _
      unfold drawPageTick
      rw [hidle, htank]
      exact if_pos h

theorem Panel.swept_page (p : Panel) (pt : PanelTick) :
    (p.swept pt).ui.currentPage = p.tank.sketch.ui.currentPage :=
  congrArg Ui.currentPage (swept_editor pt.tick p.tank).1

theorem dispatchTouch_dashboard (env : TapEnv) {s : Sketch} (t : Tap)
    (hpage : s.ui.currentPage = .dashboard) :
    dispatchTouch env s t = dashboardTouch env
      (s.withUi fun _ ui => { ui with lastTouchActivityMs := env.millis }) t := by
  unfold dispatchTouch pageTouch
  simp only [Sketch.withUi_ui, hpage]

/-- A tap on the dashboard does not lead to the idle screen. -/
theorem Panel.tapped_not_idle {p : Panel} {pt : PanelTick}
    (hpage : (p.swept pt).ui.currentPage = .dashboard) : (p.tapped pt).ui.currentPage ≠ .idle := by
  unfold Panel.tapped tapSketch
  split
  · rw [dispatchTouch_dashboard _ _ hpage]
    unfold dashboardTouch
    split
    · simp [goToPage, drawPage]
    · rw [rowTap_page]
      simp [hpage]
  · simp [hpage]

/-- What is drawn by a tap after which the dashboard is up. -/
theorem Panel.tapDrawn_cases {p : Panel} {pt : PanelTick}
    (h : (p.tapped pt).ui.currentPage = .dashboard) :
    p.tank.sketch.ui.currentPage ≠ .dashboard ∧
        p.tapDrawn pt = initDashboard pt.tapClock (p.metered pt) (p.tapped pt) p.dashboard ∨
      p.tank.sketch.ui.currentPage = .dashboard ∧
        (pt.tick.tap = none ∧ p.tapped pt = p.swept pt ∧ p.tapDrawn pt = p.dashboard ∨
          ∃ d s, p.tapped pt = rowTap pt.tick.tapEnv s d ∧
            s.live = (p.swept pt).live ∧ s.ui.lastToggleMs = (p.swept pt).ui.lastToggleMs ∧
            p.tapDrawn pt =
              drawRowTap pt.tick.tapEnv (p.swept pt) (p.tapped pt) d p.dashboard) := by
  have hpage := p.swept_page pt
  unfold Panel.tapDrawn drawTapped
  unfold Panel.tapped tapSketch at h ⊢
  cases htap : pt.tick.tap with
  | none =>
    rw [htap] at h
    exact Or.inr ⟨hpage.symm.trans h, Or.inl ⟨rfl, rfl, rfl⟩⟩
  | some tap =>
    rw [htap] at h
    simp only at h ⊢
    by_cases hup : p.tank.sketch.ui.currentPage = .dashboard
    · have hdash : (p.swept pt).ui.currentPage = .dashboard := hpage.trans hup
      refine Or.inr ⟨hup, Or.inr ?_⟩
      rw [dispatchTouch_dashboard pt.tick.tapEnv tap hdash] at h ⊢
      unfold drawTap
      rw [hdash]
      unfold dashboardTouch at h ⊢
      split at h
      · exact absurd h (by simp [goToPage, drawPage])
      · rename_i hrow
        simp only [if_neg hrow]
        exact ⟨_, _, rfl, rfl, rfl, rfl⟩
    · refine Or.inl ⟨hup, ?_⟩
      have hnot : (p.swept pt).ui.currentPage ≠ .dashboard := fun hc => hup (hpage.symm.trans hc)
      unfold drawTap
      split
      · rename_i hc
        exact absurd hc hnot
      · exact if_pos h

/-! ### The polled widgets -/

/-- The tank with its panel, and beside it what the drawings of the dashboard have read. -/
structure PanelWatch where
  panel : Panel
  note : DrawNote

/-- What the drawings of an iteration read: a tap may open the page, which is then updated, and so may
the idle screen when it is left. -/
def PanelWatch.read (w : PanelWatch) (pt : PanelTick) : DrawNote :=
  let b := w.panel.metered pt
  if (w.panel.tapped pt).ui.currentPage = .dashboard then
    if w.panel.tank.sketch.ui.currentPage = .dashboard then w.note.updated pt.clock b
    else (DrawNote.opened pt.tapClock b).updated pt.clock b
  else .opened pt.wakeClock b

def PanelWatch.step (w : PanelWatch) : PanelStep → PanelWatch
  | .loop pt =>
    { panel := w.panel.step (.loop pt)
      note := if w.panel.tank.asleep then w.note else w.read pt }
  | .btstack step => { w with panel := w.panel.step (.btstack step) }

/-- The dashboard is not up yet, so that it does not matter what the note says. -/
def PanelWatch.boot (config : MkhConfig) (files : Files Path) (note : DrawNote) : PanelWatch where
  panel := .boot config files
  note := note

/-- The dashboard, when it is up, is current. -/
structure PanelWatch.Shows (w : PanelWatch) : Prop where
  keeps : w.panel.tank.sketch.ui.currentPage = .dashboard → w.panel.dashboard.Keeps w.note
  current : w.panel.tank.sketch.ui.currentPage = .dashboard →
    w.panel.dashboard.Current w.note w.panel.battery w.panel.tank.sketch.xwcState

/-- What the tap leaves on the panel goes with what was read up to then. -/
theorem Panel.tapDrawn_keeps {p : Panel} {pt : PanelTick} {n : DrawNote}
    (hbefore : p.tank.sketch.ui.currentPage = .dashboard → p.dashboard.Keeps n)
    (h : (p.tapped pt).ui.currentPage = .dashboard) :
    (p.tapDrawn pt).Keeps
      (if p.tank.sketch.ui.currentPage = .dashboard then n
        else .opened pt.tapClock (p.metered pt)) := by
  have hreading := updateBatteryReading_hasReading pt.batteryMs pt.pinMv p.battery
  rcases p.tapDrawn_cases h with ⟨hclosed, hinit⟩ | ⟨hup, ⟨-, -, hkept⟩ | ⟨d, s, -, -, -, hrow⟩⟩
  · rw [hinit, if_neg hclosed]
    exact (initDashboard_current _ _ _ hreading).1
  · rw [hkept, if_pos hup]
    exact hbefore hup
  · rw [hrow, if_pos hup]
    exact drawRowTap_keeps _ _ _ d (hbefore hup)

theorem PanelWatch.shows_step (w : PanelWatch) (step : PanelStep) (h : w.Shows) :
    (w.step step).Shows := by
  cases step with
  | btstack step => exact ⟨h.keeps, h.current⟩
  | loop pt =>
    cases hasleep : w.panel.tank.asleep with
    | true =>
      have hsame : w.step (.loop pt) = w := by
        unfold PanelWatch.step
        simp only [hasleep, if_true]
        rw [show w.panel.step (.loop pt) = w.panel from Panel.loop_asleep hasleep pt]
      rw [hsame]
      exact h
    | false =>
      suffices hboth : (w.step (.loop pt)).panel.tank.sketch.ui.currentPage = .dashboard →
          (w.panel.loop pt).dashboard.Keeps (w.read pt) ∧
            (w.panel.loop pt).dashboard.Current (w.read pt) (w.panel.metered pt)
              (w.panel.loop pt).tank.sketch.xwcState by
        have hnote : (w.step (.loop pt)).note = w.read pt := by
          unfold PanelWatch.step
          simp only [hasleep, Bool.false_eq_true, if_false]
        have hbattery : (w.step (.loop pt)).panel.battery = w.panel.metered pt :=
          Panel.loop_battery hasleep pt
        constructor
        · rw [hnote]
          exact fun hpage => (hboth hpage).1
        · rw [hnote, hbattery]
          exact fun hpage => (hboth hpage).2
      intro hpage
      have hreading := updateBatteryReading_hasReading pt.batteryMs pt.pinMv w.panel.battery
      unfold PanelWatch.read
      cases Panel.loop_dashboard hasleep hpage with
      | stays htapped hsketch hdash =>
        have hdrawn := updateDashboard_current pt.clock (w.panel.tapped pt)
          (Panel.tapDrawn_keeps h.keeps htapped) hreading
        rw [if_pos htapped, hsketch, hdash]
        split_ifs at hdrawn ⊢ <;> exact hdrawn
      | wakes htapped _ hdash =>
        rw [if_neg (by rw [htapped]; decide), hdash]
        exact initDashboard_current pt.wakeClock _ _ hreading

/-- **The dashboard is current whenever it is up.**  In every state of the firmware the dot has the
colour of the controller's note; the clock's text was written from the reading at which the second
was last a new one; and the badge, with its voltage, from the reading at which the battery last came
into another band or the badge, being critical, blinked, so that it is of the battery's band still. -/
theorem dashboard_current (config : MkhConfig) (files : Files Path) (note : DrawNote)
    (steps : List PanelStep) :
    (after PanelWatch.step (PanelWatch.boot config files note) steps).Shows :=
  invariant_always PanelWatch.shows_step steps ⟨(fun h => by cases h), (fun h => by cases h)⟩

/-- An iteration at this time, with this voltage at the pin. -/
def panelAt (millis pinMv : UInt32) (tap : Option Tap) : PanelStep :=
  let clock : DrawClock := { second := millis, text := millis, blink := millis }
  .loop
    { tick := { tickOf .invalidDevice tap with
        tapEnv := { oracle := fun _ => .ok, millis := millis, setterClock := fun _ _ => 0 }
        idleMillis := millis }
      batteryMs := millis, pinMv := pinMv, tapClock := clock, clock := clock, wakeClock := clock }

/-- The driver opens the dashboard, and the battery falls a little. -/
def pageOpened : List PanelStep := [panelAt 1000 1300 (some ⟨100, 100⟩), panelAt 2500 1280 none]

def bootNote : DrawNote := .opened { second := 0, text := 0, blink := 0 } .boot

theorem dashboard_current_opened :
    (after PanelWatch.step (PanelWatch.boot stickConfig (fun _ => none) bootNote)
        pageOpened).panel.tank.sketch.ui.currentPage = .dashboard ∧
      (after PanelWatch.step (PanelWatch.boot stickConfig (fun _ => none) bootNote) pageOpened).Shows :=
  ⟨by decide +kernel, dashboard_current stickConfig (fun _ => none) bootNote pageOpened⟩

/-- The text is of the second reading, the badge of the first. -/
example :
    let w := after PanelWatch.step (PanelWatch.boot stickConfig (fun _ => none) bootNote) pageOpened
    w.note.text = 2500 ∧ w.note.volts = packV 1300 ∧ w.note.volts ≠ w.panel.battery.smoothedV := by
  decide +kernel

/-! ### The switches -/

/-- What the hub was told last: it is in rotation, and not on its way out. -/
def commanded (b : Broadcast) (d : Device) : Bool := b.deviceActive d && b.pendingOffServices d == 0

theorem InPhase.commanded {b : Broadcast} {d : Device} {ph : HubPhase} (h : InPhase b d ph) :
    commanded b d = decide (ph = .on) := by
  unfold MK1Tank.commanded
  rw [h.active, h.pending]
  cases ph with
  | off => rfl
  | on => rfl
  | leaving more => simp [HubPhase.pending]

/-- A hub is told something by its toggles alone. -/
theorem commanded_step {b : Broadcast} {d : Device} {ph : HubPhase} (h : InPhase b d ph)
    {i : BroadcastStep} (hoff : hubEvent d b i ≠ .turnOff) (hon : hubEvent d b i ≠ .turnOn) :
    commanded (b.step i) d = commanded b d := by
  rw [(inPhase_step i h).commanded, h.commanded]
  by_cases hph : ph = .on
  · subst hph
    rw [HubPhase.step_on hoff]
  · rw [decide_eq_false hph, decide_eq_false (HubPhase.step_not_on hph hon).1]

/-! ### What the log says of a hub -/

/-- The last command that was accepted for the hub; the hubs of the rotation start as told to be on. -/
def lastCommand (d : Device) : List Event → Bool
  | [] => d < mkhTimeSliceNumDevices
  | .offAccepted d' :: rest => if d' = d then false else lastCommand d rest
  | .onAccepted d' :: rest => if d' = d then true else lastCommand d rest
  | _ :: rest => lastCommand d rest

/-- Something was staged for the hub after it was last dropped: a telegram, or the CONNECT that brings
it back. -/
def airedSince (d : Device) : List Event → Bool
  | [] => false
  | .control d' _ _ :: rest => if d' = d then true else airedSince d rest
  | .onAccepted d' :: rest => if d' = d then true else airedSince d rest
  | .dropped d' :: rest => if d' = d then false else airedSince d rest
  | _ :: rest => airedSince d rest

/-- The broadcaster's arrays agree with its log. -/
structure Logged (b : Broadcast) : Prop where
  told : ∀ d, commanded b d = lastCommand d b.log
  aired : ∀ d, b.hubBroadcasting d = airedSince d b.log

/-- One hub's flag is set as an entry of the log about the hub reads. -/
theorem Logged.shown {b : Broadcast} (h : Logged b) (d : Device) (on : Bool) (d' : Device) :
    Function.update b.hubBroadcasting d on d' = if d = d' then on else airedSince d' b.log := by
  rw [Function.update_apply, h.aired d']
  simp only [eq_comm]

theorem Logged.of_frame {b b' : Broadcast} (h : Logged b) (hframe : SetterFrame b b') : Logged b' where
  told d := by
    rw [hframe.log, ← h.told d]
    unfold commanded
    rw [hframe.deviceActive, hframe.pendingOffServices]
  aired d := by
    rw [hframe.log, hframe.hubBroadcasting]
    exact h.aired d

theorem Logged.connect {b : Broadcast} (h : Logged b) : Logged (stageConnect b) := ⟨h.told, h.aired⟩

theorem Logged.toggleOff {b : Broadcast} (h : Logged b) (deviceId : Int) (now : Port → Int) :
    Logged (mkhBroadcastToggleOff b deviceId now) := by
  rcases mkhBroadcastToggleOff_cases b deviceId now with heq | ⟨d, -, -, -, t, ht, -, heq⟩
  · rwa [heq]
  · rw [heq]
    constructor
    · intro d'
      show (t.deviceActive d' && Function.update t.pendingOffServices d mkhOffGraceServices d' == 0) =
        lastCommand d' t.log
      rw [ht.log, ht.deviceActive, ht.pendingOffServices, lastCommand]
      by_cases hd : d = d'
      · subst hd
        rw [if_pos rfl, Function.update_self]
        simp [mkhOffGraceServices]
      · rw [if_neg hd, Function.update_of_ne (Ne.symm hd)]
        exact h.told d'
    · intro d'
      show t.hubBroadcasting d' = airedSince d' t.log
      rw [ht.log, ht.hubBroadcasting, airedSince]
      · exact h.aired d'
      all_goals simp

theorem Logged.toggleOn {b : Broadcast} (h : Logged b) (deviceId : Int) (now : Port → Int) :
    Logged (mkhBroadcastToggleOn b deviceId now) := by
  rcases mkhBroadcastToggleOn_cases b deviceId now with heq | ⟨d, -, -, -, t, ht, -, heq⟩
  · rwa [heq]
  · have hlog : t.log = .onAccepted d :: b.log := ht.log
    rw [heq]
    constructor
    · intro d'
      show (Function.update t.deviceActive d true d' && t.pendingOffServices d' == 0) =
        lastCommand d' (.connect :: t.log)
      rw [hlog, ht.deviceActive, ht.pendingOffServices]
      show _ = if d = d' then true else lastCommand d' b.log
      by_cases hd : d = d'
      · subst hd
        rw [if_pos rfl, Function.update_self]
        simp [setPendingOffServices]
      · rw [if_neg hd, Function.update_of_ne (Ne.symm hd)]
        simp only [setPendingOffServices, Function.update_of_ne (Ne.symm hd)]
        exact h.told d'
    · intro d'
      show Function.update t.hubBroadcasting d true d' = airedSince d' (.connect :: t.log)
      rw [hlog, ht.hubBroadcasting]
      exact h.shown d true d'

theorem Logged.control {b : Broadcast} (h : Logged b) : Logged (controlTimer b) := by
  rcases controlTimer_cases b with ⟨-, heq⟩ | ⟨d, -, hactive, ⟨hmore, heq⟩ | ⟨hlast, heq⟩⟩
  · rwa [heq]
  · rw [heq]
    constructor
    · intro d'
      show (b.deviceActive d' &&
        Function.update b.pendingOffServices d (b.pendingOffServices d - 1) d' == 0) = lastCommand d' b.log
      rw [← h.told d']
      unfold commanded
      by_cases hd : d = d'
      · subst hd
        have hzero : (b.pendingOffServices d - 1 == 0) = (b.pendingOffServices d == 0) := by
          rw [Bool.eq_iff_iff, beq_iff_eq, beq_iff_eq]
          omega
        rw [Function.update_self, hzero]
      · rw [Function.update_of_ne (Ne.symm hd)]
    · intro d'
      exact h.shown d true d'
  · rw [heq]
    constructor
    · intro d'
      show (Function.update b.deviceActive d false d' &&
        Function.update b.pendingOffServices d 0 d' == 0) = lastCommand d' b.log
      rw [← h.told d']
      unfold commanded
      by_cases hd : d = d'
      · subst hd
        rw [Function.update_self, hlast]
        simp
      · rw [Function.update_of_ne (Ne.symm hd), Function.update_of_ne (Ne.symm hd)]
    · intro d'
      show Function.update (Function.update b.hubBroadcasting d true) d false d' =
        if d = d' then false else if d = d' then true else airedSince d' b.log
      rw [Function.update_idem, h.shown d false d']
      split_ifs <;> rfl

theorem Logged.callback {b : Broadcast} (h : Logged b) : Logged (runLoopCallback b) := by
  rcases runLoopCallback_cases b with ⟨-, heq⟩ | ⟨d, rest, -, heq⟩
  · rwa [heq]
  · rw [heq]
    exact ⟨h.told, fun d' => h.shown d true d'⟩

theorem logged_step (b : Broadcast) (i : BroadcastStep) (h : Logged b) : Logged (b.step i) := by
  cases i with
  | stateWorking =>
    show Logged (btstackEventState b)
    rcases btstackEventState_cases b with ⟨-, heq⟩ | ⟨-, heq⟩
    · rwa [heq]
    · rw [heq]
      exact Logged.connect ⟨h.told, h.aired⟩
  | setChannel deviceId port value now =>
    exact h.of_frame (mkhSetChannel_frame b deviceId port value now)
  | toggleOff deviceId now => exact h.toggleOff deviceId now
  | toggleOn deviceId now => exact h.toggleOn deviceId now
  | controlTick => exact h.control
  | runCallback => exact h.callback

theorem logged_init : Logged mkhBroadcastInit where
  told d := by
    simp [commanded, lastCommand, mkhBroadcastInit]
  aired _ := rfl

/-- Every hub is in some phase. -/
def Phased (b : Broadcast) : Prop := ∀ d, ∃ ph, InPhase b d ph

theorem phased_step (b : Broadcast) (i : BroadcastStep) (h : Phased b) : Phased (b.step i) := by
  intro d
  obtain ⟨ph, hph⟩ := h d
  exact ⟨_, inPhase_step i hph⟩

theorem SetsOnly.frame {b b' : Broadcast} (h : SetsOnly b b') : SetterFrame b b' := by
  refine ReachedBy.invariant (I := SetterFrame b) h ?_ (SetterFrame.refl b)
  intro s i hi hs
  cases i with
  | setChannel deviceId port value now => exact hs.trans (mkhSetChannel_frame s deviceId port value now)
  | _ => exact hi.elim

/-- A frame of the setter keeps what is commanded. -/
theorem SetterFrame.commanded {b b' : Broadcast} (h : SetterFrame b b') (d : Device) :
    commanded b' d = commanded b d := by
  unfold MK1Tank.commanded
  rw [h.deviceActive, h.pendingOffServices]

/-- The switches tell what the hubs were told last. -/
def Dashboard.Tells (dash : Dashboard) (b : Broadcast) : Prop := ∀ d, dash.switchOn d = commanded b d

theorem commanded_toggle_other {b : Broadcast} (h : Phased b) {d d' : Device} (hne : d' ≠ d)
    (now : Port → Int) :
    commanded (mkhBroadcastToggleOff b d.val now) d' = commanded b d' ∧
      commanded (mkhBroadcastToggleOn b d.val now) d' = commanded b d' := by
  obtain ⟨ph, hph⟩ := h d'
  have hother : Device.ofId? d.val ≠ some d' := by
    rw [Device.ofId?_coe]
    exact fun hc => hne (Option.some.inj hc).symm
  have hoff : hubEvent d' b (.toggleOff d.val now) = .other := if_neg hother
  have hon : hubEvent d' b (.toggleOn d.val now) = .other := if_neg fun hc => hother hc.1
  exact ⟨commanded_step (i := .toggleOff d.val now) hph (by simp [hoff]) (by simp [hoff]),
    commanded_step (i := .toggleOn d.val now) hph (by simp [hon]) (by simp [hon])⟩

theorem commanded_toggleOff {b : Broadcast} (h : Phased b) (d : Device) (now : Port → Int) :
    commanded (mkhBroadcastToggleOff b d.val now) d = false := by
  obtain ⟨ph, hph⟩ := h d
  have hoff : ph.step .turnOff ≠ .on := by cases ph <;> simp [HubPhase.step]
  exact (inPhase_toggleOff_self hph now).commanded.trans (decide_eq_false hoff)

/-- A toggle-on either does nothing, or the hub is shown and commanded on. -/
theorem toggleOn_shown {b : Broadcast} (h : Phased b) (d : Device) (now : Port → Int) :
    mkhBroadcastToggleOn b d.val now = b ∨
      (mkhBroadcastToggleOn b d.val now).hubBroadcasting d = true ∧
        commanded (mkhBroadcastToggleOn b d.val now) d = true := by
  rcases mkhBroadcastToggleOn_cases b d.val now with heq | ⟨d', hid, hlt, -, t, -, -, heq⟩
  · exact Or.inl heq
  · obtain rfl : d = d' := Option.some.inj ((Device.ofId?_coe d).symm.trans hid)
    obtain ⟨ph, hph⟩ := h d
    refine Or.inr ⟨?_, (inPhase_toggleOn_self hph hlt now).commanded⟩
    rw [heq]
    exact Function.update_self ..

/-- **A tap draws what it commands.** -/
theorem rowTap_tells (env : TapEnv) {s : Sketch} (d : Device) {dash : Dashboard}
    (hphased : Phased s.live.broadcast) (h : dash.Tells s.live.broadcast) :
    (drawRowTap env s (rowTap env s d) d dash).Tells (rowTap env s d).live.broadcast := by
  have hair := rowTap_broadcast env s d
  unfold drawRowTap
  rw [hair]
  unfold mkhRowTap
  split
  · exact h
  · split
    · split
      · intro d'
        by_cases hself : d' = d
        · subst hself
          rw [commanded_toggleOff hphased]
          exact Function.update_self ..
        · rw [(commanded_toggle_other hphased hself _).1, ← h d']
          exact Function.update_of_ne hself ..
      · rename_i hhidden
        rcases toggleOn_shown hphased d (env.setterClock d) with hsame | ⟨hshown, hcommanded⟩
        · rw [hsame, if_neg hhidden]
          exact h
        · rw [if_pos hshown]
          intro d'
          by_cases hself : d' = d
          · subst hself
            rw [hcommanded]
            exact Function.update_self ..
          · rw [(commanded_toggle_other hphased hself _).2, ← h d']
            exact Function.update_of_ne hself ..
    · exact h

theorem drawRowTap_congr (env : TapEnv) {before s : Sketch} (tapped : Sketch) (d : Device)
    (dash : Dashboard) (hlive : s.live = before.live)
    (hlast : s.ui.lastToggleMs = before.ui.lastToggleMs) :
    drawRowTap env before tapped d dash = drawRowTap env s tapped d dash := by
  unfold drawRowTap
  rw [hlive, hlast]

theorem drawUptime_switchOn (clock : DrawClock) (force : Bool) (dash : Dashboard) :
    (drawUptime clock force dash).switchOn = dash.switchOn := by
  rcases drawUptime_cases clock force dash with ⟨-, -, heq⟩ | heq <;> rw [heq]

theorem drawBatteryBadge_switchOn (clock : DrawClock) (b : Battery) (force : Bool)
    (dash : Dashboard) : (drawBatteryBadge clock b force dash).switchOn = dash.switchOn := by
  unfold drawBatteryBadge
  simp only
  split
  · rfl
  · split <;> rfl

theorem updateDashboard_switchOn (clock : DrawClock) (b : Battery) (s : Sketch) (dash : Dashboard) :
    (updateDashboard clock b s dash).switchOn = dash.switchOn := by
  unfold updateDashboard
  simp only [drawBatteryBadge_switchOn, drawUptime_switchOn]
  split <;> rfl

theorem initDashboard_switchOn (clock : DrawClock) (b : Battery) (s : Sketch) (dash : Dashboard) :
    (initDashboard clock b s dash).switchOn = s.live.broadcast.hubBroadcasting := by
  unfold initDashboard
  simp only [drawBatteryBadge_switchOn, drawUptime_switchOn]

/-- The step opens the dashboard. -/
def OpensDashboard (p : Panel) (step : PanelStep) : Prop :=
  p.tank.sketch.ui.currentPage ≠ .dashboard ∧
    (p.step step).tank.sketch.ui.currentPage = .dashboard

/-- A page that is opened takes its switches from the telegrams that went out. -/
theorem opens_switchOn {p : Panel} {step : PanelStep} (h : OpensDashboard p step) :
    (p.step step).dashboard.switchOn = (p.step step).tank.sketch.live.broadcast.hubBroadcasting := by
  obtain ⟨hclosed, hopen⟩ := h
  cases step with
  | btstack step => exact absurd hopen hclosed
  | loop pt =>
    cases hasleep : p.tank.asleep with
    | true =>
      rw [show p.step (.loop pt) = p from Panel.loop_asleep hasleep pt] at hopen
      exact absurd hopen hclosed
    | false =>
      show (p.loop pt).dashboard.switchOn = (p.loop pt).tank.sketch.live.broadcast.hubBroadcasting
      cases Panel.loop_dashboard hasleep hopen with
      | stays htapped hsketch hdash =>
        rcases p.tapDrawn_cases htapped with ⟨-, hinit⟩ | ⟨hup, -⟩
        · rw [hdash, updateDashboard_switchOn, hinit, initDashboard_switchOn, hsketch]
        · exact absurd hup hclosed
      | wakes _ _ hdash => rw [hdash, initDashboard_switchOn]

/-- A tap on another page sends nothing and commands nothing. -/
theorem Panel.tapped_air {p : Panel} {pt : PanelTick}
    (hclosed : p.tank.sketch.ui.currentPage ≠ .dashboard) : SameAir (p.swept pt) (p.tapped pt) := by
  have hpage : (p.swept pt).ui.currentPage ≠ .dashboard := fun h =>
    hclosed ((p.swept_page pt).symm.trans h)
  unfold Panel.tapped tapSketch
  split
  · rcases pageTouch_air pt.tick.tapEnv _ _ with hsame | ⟨hup, -⟩
    · exact hsame
    · exact absurd hup hpage
  · exact SameAir.refl _

/-- The step that opens the dashboard at most stages bytes. -/
theorem opens_frame {p : Panel} {step : PanelStep} (h : OpensDashboard p step) :
    SetterFrame p.tank.sketch.live.broadcast (p.step step).tank.sketch.live.broadcast := by
  obtain ⟨hclosed, hopen⟩ := h
  cases step with
  | btstack step => exact absurd hopen hclosed
  | loop pt =>
    cases hasleep : p.tank.asleep with
    | true =>
      rw [show p.step (.loop pt) = p from Panel.loop_asleep hasleep pt] at hopen
      exact absurd hopen hclosed
    | false =>
      have hsets : SetsOnly p.tank.sketch.live.broadcast (p.swept pt).live.broadcast :=
        (fetchControllers_sets pt.tick p.tank).trans (sweepHeld_sets pt.tick _)
      have hair : SameAir (p.tapped pt) (p.loop pt).tank.sketch := by
        cases Panel.loop_dashboard hasleep hopen with
        | stays _ hsketch _ => rw [hsketch]; exact SameAir.refl _
        | wakes _ hair _ => exact hair
      show SetterFrame _ (p.loop pt).tank.sketch.live.broadcast
      rw [hair, Panel.tapped_air hclosed]
      exact hsets.frame

/-- **A dashboard that stays up goes on telling.** -/
theorem stays_tells {p : Panel} {step : PanelStep} (hphased : Phased p.tank.sketch.live.broadcast)
    (hup : p.tank.sketch.ui.currentPage = .dashboard)
    (hstays : (p.step step).tank.sketch.ui.currentPage = .dashboard)
    (h : p.dashboard.Tells p.tank.sketch.live.broadcast) :
    (p.step step).dashboard.Tells (p.step step).tank.sketch.live.broadcast := by
  cases step with
  | btstack step =>
    intro d
    obtain ⟨ph, hph⟩ := hphased d
    have hair : (p.step (.btstack step)).tank.sketch.live.broadcast =
        p.tank.sketch.live.broadcast.step step.toBroadcast := by cases step <;> rfl
    rw [hair, commanded_step hph ?_ ?_]
    · exact h d
    · rcases btstack_event d p.tank.sketch.live.broadcast step with hevent | hevent <;> simp [hevent]
    · rcases btstack_event d p.tank.sketch.live.broadcast step with hevent | hevent <;> simp [hevent]
  | loop pt =>
    cases hasleep : p.tank.asleep with
    | true =>
      rw [show p.step (.loop pt) = p from Panel.loop_asleep hasleep pt]
      exact h
    | false =>
      have hsets : SetsOnly p.tank.sketch.live.broadcast (p.swept pt).live.broadcast :=
        (fetchControllers_sets pt.tick p.tank).trans (sweepHeld_sets pt.tick _)
      have hswept : p.dashboard.Tells (p.swept pt).live.broadcast := fun d =>
        (h d).trans (hsets.frame.commanded d).symm
      have hphased' : Phased (p.swept pt).live.broadcast := fun d =>
        (hphased d).imp fun _ hph => hph.of_frame hsets.frame
      show (p.loop pt).dashboard.Tells (p.loop pt).tank.sketch.live.broadcast
      cases Panel.loop_dashboard hasleep hstays with
      | stays htapped hsketch hdash =>
        have htells : (p.tapDrawn pt).Tells (p.tapped pt).live.broadcast := by
          rcases p.tapDrawn_cases htapped with ⟨hclosed, -⟩ | ⟨-, ⟨-, hnone, hkept⟩ |
            ⟨d, s, hrow, hlive, hlast, hdrawn⟩⟩
          · exact absurd hup hclosed
          · rw [hnone, hkept]
            exact hswept
          · rw [hdrawn, drawRowTap_congr _ _ d _ hlive hlast, hrow]
            rw [← hlive] at hphased' hswept
            exact rowTap_tells _ d hphased' hswept
        intro d
        rw [hdash, updateDashboard_switchOn, hsketch]
        exact htells d
      | wakes htapped _ _ =>
        exact absurd htapped (Panel.tapped_not_idle ((p.swept_page pt).trans hup))

/-- The condition: when a dashboard is opened, the log before has something staged since they were last
dropped for the hubs that were told to be on last, and for no others. -/
def OpensHonest (p : Panel) (step : PanelStep) : Prop :=
  OpensDashboard p step → ∀ d,
    airedSince d p.tank.sketch.live.broadcast.log = lastCommand d p.tank.sketch.live.broadcast.log

instance (p : Panel) (step : PanelStep) : Decidable (OpensHonest p step) :=
  inferInstanceAs (Decidable ((_ ∧ _) → ∀ _, _))

/-- The switches tell the commands of the log, when the dashboard is up. -/
def Panel.Tells (p : Panel) : Prop :=
  p.tank.sketch.ui.currentPage = .dashboard → ∀ d,
    p.dashboard.switchOn d = lastCommand d p.tank.sketch.live.broadcast.log

theorem Panel.tank_step (p : Panel) (step : PanelStep) :
    (p.step step).tank = match step with
      | .loop pt => p.tank.step (.loop pt.tick)
      | .btstack step => p.tank.step (.btstack step) := by
  cases step with
  | btstack step => rfl
  | loop pt =>
    show (p.loop pt).tank = MK1Tank.loop p.tank pt.tick
    cases hasleep : p.tank.asleep with
    | true =>
      rw [Panel.loop_asleep hasleep]
      exact (MK1Tank.loop_asleep hasleep pt.tick).symm
    | false =>
      unfold Panel.loop
      rw [if_neg (by simp [hasleep])]

/-- What the broadcaster's steps keep, a step of the panel keeps. -/
theorem Panel.broadcast_step {I : Broadcast → Prop} (hstep : ∀ b i, I b → I (b.step i)) (p : Panel)
    (step : PanelStep) (h : I p.tank.sketch.live.broadcast) :
    I (p.step step).tank.sketch.live.broadcast := by
  rw [p.tank_step]
  cases step with
  | btstack step =>
    have hair : (p.tank.step (.btstack step)).sketch.live.broadcast =
        p.tank.sketch.live.broadcast.step step.toBroadcast := by cases step <;> rfl
    show I (p.tank.step (.btstack step)).sketch.live.broadcast
    rw [hair]
    exact hstep _ _ h
  | loop pt =>
    exact ReachedBy.invariant (I := I) (loop_sketchOnly p.tank pt.tick) (fun b i _ hb => hstep b i hb) h

/-- What every run keeps: the switches tell, every hub is in some phase, and the arrays agree with the
log. -/
structure Panel.Sound (p : Panel) : Prop where
  phased : Phased p.tank.sketch.live.broadcast
  logged : Logged p.tank.sketch.live.broadcast
  tells : p.Tells

/-- **The switches tell what the hubs were told last, for as long as the dashboards that are opened
do.**  In a run of the firmware, each state that has the dashboard up has its switches tell the last command
accepted for each hub when, and only when, every dashboard is opened at a moment when the log has
something staged, since they were last dropped, for just the hubs that were told to be on last. -/
theorem switches_tell_iff (config : MkhConfig) (files : Files Path) (steps : List PanelStep) :
    (∀ front back, steps = front ++ back →
      (after Panel.step (Panel.boot config files) front).Tells) ↔
    Meets Panel.step OpensHonest (Panel.boot config files) steps := by
  have hboot : (Panel.boot config files).Sound :=
    ⟨fun d => ⟨_, inPhase_init d⟩, logged_init, fun h => by cases h⟩
  refine always_iff_meets ?_ (fun p h => h.tells) ?_ steps _ hboot
  · intro p step ⟨hphased, hlogged, htells⟩ hok
    have hlogged' := p.broadcast_step logged_step step hlogged
    refine ⟨p.broadcast_step phased_step step hphased, hlogged', fun hopen d => ?_⟩
    by_cases hup : p.tank.sketch.ui.currentPage = .dashboard
    · have htold : p.dashboard.Tells p.tank.sketch.live.broadcast := fun d =>
        (htells hup d).trans (hlogged.told d).symm
      exact (stays_tells hphased hup hopen htold d).trans (hlogged'.told d)
    · have hframe := opens_frame ⟨hup, hopen⟩
      rw [opens_switchOn ⟨hup, hopen⟩, hframe.log, hframe.hubBroadcasting, hlogged.aired d]
      exact hok ⟨hup, hopen⟩ d
  · intro p step hsound hdishonest htells
    refine hdishonest fun hopens d => ?_
    have hframe := opens_frame hopens
    have hshown := htells hopens.2 d
    rw [opens_switchOn hopens, hframe.log, hframe.hubBroadcasting, hsound.logged.aired d] at hshown
    exact hshown

/-- The driver opens the dashboard, turns the first hub off, looks at the settings and is back before
the hub is out. -/
private def lookedAway : List PanelStep :=
  [.btstack .stateWorking, .btstack .controlTick, panelAt 1000 1300 (some ⟨100, 100⟩),
    panelAt 2000 1300 (some ⟨100, 60⟩), panelAt 2500 1300 (some ⟨5, 5⟩),
    panelAt 3000 1300 (some ⟨30, 200⟩)]

/-- The switch of the hub is on again, and the hub goes out. -/
example : ¬ Meets Panel.step OpensHonest (Panel.boot stickConfig fun _ => none) lookedAway := by
  decide +kernel

end MK1Tank
