import Chip8.Proofs.Frames
import Mathlib.Data.List.Forall2

/-!
# Key histories

Which key is held after any history of presses, releases, ends of frames and key events: the one that
was pressed last, as long as it has not been released since and fewer frames than it is held for have
ended since. Nothing else in the history makes a difference.
-/

namespace Chip8

namespace Keymap

/-- What happens to a keymap. -/
inductive Call where
  | press (c : Char)
  | release (c : Char)
  | endFrame
  | event (e : KeyEvent)
  deriving DecidableEq, Repr

def perform (m : Keymap) : Call → Keymap
  | .press c => m.press c
  | .release c => m.release c
  | .endFrame => m.endFrame
  | .event e => e.apply m

def performAll (m : Keymap) (calls : List Call) : Keymap := calls.foldl perform m

namespace Call

/-- A character is pressed by itself or by an event, which may as well repeat it. -/
inductive Presses : Call → Char → Prop
  | press (c : Char) : Presses (.press c) c
  | event {e : KeyEvent} {c : Char} (hstay : ¬ e.AsksToQuit) (hcode : e.code = .char c)
      (haction : e.action = .press ∨ e.action = .again) : Presses (.event e) c

inductive Releases : Call → Char → Prop
  | release (c : Char) : Releases (.release c) c
  | event {e : KeyEvent} {c : Char} (hstay : ¬ e.AsksToQuit) (hcode : e.code = .char c)
      (haction : e.action = .release) : Releases (.event e) c

/-- Unmapped characters press no key. -/
def PressesKey (a : Call) (k : Key) : Prop := ∃ c, a.Presses c ∧ keyOf? c = some k

def ReleasesKey (a : Call) (k : Key) : Prop := ∃ c, a.Releases c ∧ keyOf? c = some k

/-- Calls that differ at most in the case of a letter. Events are compared only if neither of them
quits: with Control, `c` does and `C` does not. -/
inductive EqualButCase : Call → Call → Prop
  | refl (a : Call) : EqualButCase a a
  | press {c c' : Char} (h : c.toLower = c'.toLower) : EqualButCase (.press c) (.press c')
  | release {c c' : Char} (h : c.toLower = c'.toLower) : EqualButCase (.release c) (.release c')
  | event {e e' : KeyEvent} {c c' : Char} (hstay : ¬ e.AsksToQuit) (hstay' : ¬ e'.AsksToQuit)
      (hcode : e.code = .char c) (hcode' : e' = { e with code := .char c' })
      (h : c.toLower = c'.toLower) : EqualButCase (.event e) (.event e')

end Call

variable {m : Keymap} {a : Call} {c : Char} {k : Key}

/-! ### One call -/

theorem press_of_mapped (h : keyOf? c = some k) : m.press c = ⟨some (k, holdFrames)⟩ := by
  rw [press, h]

theorem press_of_unmapped (h : keyOf? c = none) : m.press c = m := by
  rw [press, h]

theorem release_of_held (h : keyOf? c = some k) (hheld : m.heldKey = some k) :
    m.release c = ⟨none⟩ := by
  simp [release, isMapped, h, hheld]

theorem release_of_other (h : ∀ k, keyOf? c = some k → m.heldKey ≠ some k) : m.release c = m := by
  rw [release]
  split
  · rename_i hreleased
    simp only [isMapped, Bool.and_eq_true, Option.isSome_iff_exists, beq_iff_eq] at hreleased
    obtain ⟨⟨k, hk⟩, hheld⟩ := hreleased
    exact absurd (hheld.symm.trans hk) (h k hk)
  · rfl

theorem apply_of_quit {e : KeyEvent} (h : e.AsksToQuit) (m : Keymap) : e.apply m = m := by
  rw [KeyEvent.apply, if_pos (KeyEvent.quits_iff.mpr h)]

theorem apply_of_not_char {e : KeyEvent} (h : ∀ c, e.code ≠ .char c) (m : Keymap) :
    e.apply m = m := by
  rw [KeyEvent.apply]
  split
  · rfl
  · cases hcode : e.code with
    | char c => exact absurd hcode (h c)
    | escape | other => rfl

theorem apply_of_stay {e : KeyEvent} (hstay : ¬ e.AsksToQuit) (hcode : e.code = .char c) :
    e.apply m = if e.action = .release then m.release c else m.press c := by
  rw [KeyEvent.apply, if_neg (mt KeyEvent.quits_iff.mp hstay), hcode]
  cases e.action <;> rfl

theorem perform_of_presses (h : a.Presses c) : m.perform a = m.press c := by
  cases h with
  | press => rfl
  | event hstay hcode haction =>
    rw [perform, apply_of_stay hstay hcode, if_neg]
    rcases haction with haction | haction <;> simp [haction]

theorem perform_of_releases (h : a.Releases c) : m.perform a = m.release c := by
  cases h with
  | release => rfl
  | event hstay hcode haction => rw [perform, apply_of_stay hstay hcode, if_pos haction]

/-- A call that is none of the others is an event about no character, or one that quits. -/
theorem perform_of_neither (hpress : ∀ c, ¬ a.Presses c) (hrelease : ∀ c, ¬ a.Releases c)
    (hframe : a ≠ .endFrame) : m.perform a = m := by
  cases a with
  | press c => exact absurd (.press c) (hpress c)
  | release c => exact absurd (.release c) (hrelease c)
  | endFrame => contradiction
  | event e =>
    by_cases hstay : e.AsksToQuit
    · exact apply_of_quit hstay m
    · apply apply_of_not_char
      intro c hcode
      cases haction : e.action with
      | press => exact hpress c (.event hstay hcode (.inl haction))
      | again => exact hpress c (.event hstay hcode (.inr haction))
      | release => exact hrelease c (.event hstay hcode haction)

theorem perform_of_pressesKey (h : a.PressesKey k) : m.perform a = ⟨some (k, holdFrames)⟩ := by
  obtain ⟨c, hpress, hk⟩ := h
  rw [perform_of_presses hpress, press_of_mapped hk]

theorem perform_of_releasesKey (h : a.ReleasesKey k) (hheld : m.heldKey = some k) :
    m.perform a = ⟨none⟩ := by
  obtain ⟨c, hrelease, hk⟩ := h
  rw [perform_of_releases hrelease, release_of_held hk hheld]

/-- Unmapped characters and releases of keys that are not held go unnoticed. -/
theorem perform_unnoticed (hframe : a ≠ .endFrame) (hpress : ∀ k, ¬ a.PressesKey k)
    (hrelease : ∀ k, a.ReleasesKey k → m.heldKey ≠ some k) : m.perform a = m := by
  by_cases hpresses : ∃ c, a.Presses c
  · obtain ⟨c, hc⟩ := hpresses
    have hunmapped : keyOf? c = none :=
      Option.eq_none_iff_forall_ne_some.mpr fun k hk => hpress k ⟨c, hc, hk⟩
    rw [perform_of_presses hc, press_of_unmapped hunmapped]
  by_cases hreleases : ∃ c, a.Releases c
  · obtain ⟨c, hc⟩ := hreleases
    rw [perform_of_releases hc, release_of_other fun k hk => hrelease k ⟨c, hc, hk⟩]
  · exact perform_of_neither (not_exists.mp hpresses) (not_exists.mp hreleases) hframe

/-! ### After the last press -/

variable {calls : List Call}

theorem performAll_cons (m : Keymap) (a : Call) (rest : List Call) :
    m.performAll (a :: rest) = (m.perform a).performAll rest := rfl

theorem performAll_append (m : Keymap) (first second : List Call) :
    m.performAll (first ++ second) = (m.performAll first).performAll second :=
  List.foldl_append

theorem performAll_none (hpress : ∀ a ∈ calls, ∀ k, ¬ a.PressesKey k) :
    performAll ⟨none⟩ calls = ⟨none⟩ := by
  induction calls with
  | nil => rfl
  | cons a rest ih =>
    obtain ⟨ha, hrest⟩ := List.forall_mem_cons.mp hpress
    have hstep : perform ⟨none⟩ a = ⟨none⟩ := by
      by_cases hframe : a = .endFrame
      · rw [hframe]
        rfl
      · exact perform_unnoticed hframe ha fun _ _ => nofun
    rw [performAll_cons, hstep, ih hrest]

/-- As long as no key is pressed, the held one stays until it is released or its frames are over. -/
theorem heldKey_performAll_held (hpress : ∀ a ∈ calls, ∀ k, ¬ a.PressesKey k) {frames : Nat}
    (hframes : 0 < frames) (k' : Key) :
    (performAll ⟨some (k, frames)⟩ calls).heldKey = some k' ↔
      k = k' ∧ (∀ a ∈ calls, ¬ a.ReleasesKey k) ∧ calls.count .endFrame < frames := by
  induction calls generalizing frames with
  | nil => simp [performAll, heldKey, hframes]
  | cons a rest ih =>
    obtain ⟨ha, hrest⟩ := List.forall_mem_cons.mp hpress
    rw [performAll_cons, List.forall_mem_cons]
    by_cases hframe : a = .endFrame
    · subst hframe
      have hno : ¬ Call.endFrame.ReleasesKey k := by
        rintro ⟨c, hc, _⟩
        cases hc
      rw [List.count_cons_self]
      by_cases hlast : 1 < frames
      · have hstep : perform ⟨some (k, frames)⟩ .endFrame = ⟨some (k, frames - 1)⟩ := by
          simp [perform, endFrame, hlast]
        rw [hstep, ih hrest (by omega)]
        simp only [hno, not_false_eq_true, true_and, Nat.lt_sub_iff_add_lt]
      · have hstep : perform ⟨some (k, frames)⟩ .endFrame = ⟨none⟩ := by
          simp [perform, endFrame, hlast]
        rw [hstep, performAll_none hrest]
        constructor
        · nofun
        · omega
    rw [List.count_cons_of_ne hframe]
    by_cases hrelease : a.ReleasesKey k
    · rw [perform_of_releasesKey hrelease rfl, performAll_none hrest]
      constructor
      · nofun
      · rintro ⟨_, ⟨hno, _⟩, _⟩
        exact absurd hrelease hno
    · have hstep : perform ⟨some (k, frames)⟩ a = ⟨some (k, frames)⟩ := by
        apply perform_unnoticed hframe ha
        rintro k' hk' ⟨⟩
        exact hrelease hk'
      rw [hstep, ih hrest hframes]
      simp only [hrelease, not_false_eq_true, true_and]

/-! ### All of the history -/

/-- A history either presses no key or has a last press of one. -/
theorem exists_last_press (calls : List Call) :
    (∀ a ∈ calls, ∀ k, ¬ a.PressesKey k) ∨
      ∃ before a later k, calls = before ++ a :: later ∧ a.PressesKey k ∧
        ∀ b ∈ later, ∀ k, ¬ b.PressesKey k := by
  induction calls with
  | nil => exact .inl nofun
  | cons a rest ih =>
    rcases ih with hnone | ⟨before, b, later, k, rfl, hb, hlater⟩
    · by_cases ha : ∃ k, a.PressesKey k
      · obtain ⟨k, hk⟩ := ha
        exact .inr ⟨[], a, rest, k, rfl, hk, hnone⟩
      · exact .inl (List.forall_mem_cons.mpr ⟨not_exists.mp ha, hnone⟩)
    · exact .inr ⟨a :: before, b, later, k, rfl, hb, hlater⟩

theorem performAll_last_press (m : Keymap) (before : List Call) (h : a.PressesKey k)
    (later : List Call) :
    m.performAll (before ++ a :: later) = performAll ⟨some (k, holdFrames)⟩ later := by
  rw [performAll_append, performAll_cons, perform_of_pressesKey h]

theorem heldKey_performAll_iff (calls : List Call) (k : Key) :
    (performAll {} calls).heldKey = some k ↔
      ∃ before a later, calls = before ++ a :: later ∧ a.PressesKey k ∧
        (∀ b ∈ later, ∀ k', ¬ b.PressesKey k') ∧ (∀ b ∈ later, ¬ b.ReleasesKey k) ∧
        later.count .endFrame < holdFrames := by
  constructor
  · intro hheld
    rcases exists_last_press calls with hnone | ⟨before, a, later, pressed, rfl, ha, hlater⟩
    · rw [performAll_none hnone] at hheld
      cases hheld
    · rw [performAll_last_press _ _ ha] at hheld
      obtain ⟨rfl, hkept, hcount⟩ := (heldKey_performAll_held hlater (by decide) k).mp hheld
      exact ⟨before, a, later, rfl, ha, hlater, hkept, hcount⟩
  · rintro ⟨before, a, later, rfl, ha, hlater, hkept, hcount⟩
    rw [performAll_last_press _ _ ha]
    exact (heldKey_performAll_held hlater (by decide) k).mpr ⟨rfl, hkept, hcount⟩

theorem keyOf?_eq_of_case {c c' : Char} (h : c.toLower = c'.toLower) : keyOf? c' = keyOf? c := by
  rw [keyOf?, keyOf?, h]

theorem press_of_case {c c' : Char} (h : c.toLower = c'.toLower) : m.press c' = m.press c := by
  rw [press, press, keyOf?_eq_of_case h]

theorem release_of_case {c c' : Char} (h : c.toLower = c'.toLower) : m.release c' = m.release c := by
  rw [release, release, isMapped, isMapped, keyOf?_eq_of_case h]

theorem perform_of_case {a b : Call} (h : a.EqualButCase b) : m.perform b = m.perform a := by
  cases h with
  | refl => rfl
  | press h => exact press_of_case h
  | release h => exact release_of_case h
  | event hstay hstay' hcode hcode' h =>
    subst hcode'
    rw [perform, perform, apply_of_stay hstay hcode, apply_of_stay hstay' rfl, press_of_case h,
      release_of_case h]

theorem performAll_of_case {calls calls' : List Call}
    (h : List.Forall₂ Call.EqualButCase calls calls') :
    m.performAll calls' = m.performAll calls := by
  induction h generalizing m with
  | nil => rfl
  | cons h _ ih => rw [performAll_cons, performAll_cons, perform_of_case h, ih]

/-- A key is held after a history exactly if it is the one that was pressed last, has not been
released since, and at most five frames have ended since. Presses of unmapped characters, releases of
keys that are not held and the case of letters make no difference to the keymap, and neither do events
that quit or are about no character. -/
theorem held_by_history (calls : List Call) :
    (∀ k, (performAll {} calls).heldKey = some k ↔
      ∃ before a later, calls = before ++ a :: later ∧ a.PressesKey k ∧
        (∀ b ∈ later, ∀ k', ¬ b.PressesKey k') ∧ (∀ b ∈ later, ¬ b.ReleasesKey k) ∧
        later.count .endFrame ≤ 5) ∧
    (∀ before a later, calls = before ++ a :: later → a ≠ .endFrame → (∀ k, ¬ a.PressesKey k) →
      (∀ k, a.ReleasesKey k → (performAll {} before).heldKey ≠ some k) →
      performAll {} calls = performAll {} (before ++ later)) ∧
    (∀ calls', List.Forall₂ Call.EqualButCase calls calls' →
      performAll {} calls' = performAll {} calls) ∧
    ∀ (e : KeyEvent) (m : Keymap), e.AsksToQuit ∨ (∀ c, e.code ≠ .char c) → e.apply m = m := by
  refine ⟨?held, ?unnoticed, ?case, ?idle⟩
  case held =>
    intro k
    have hfive (n : Nat) : n < holdFrames ↔ n ≤ 5 := Nat.lt_succ_iff
    simp only [heldKey_performAll_iff, hfive]
  case unnoticed =>
    rintro before a later rfl hframe hpress hrelease
    rw [performAll_append, performAll_append, performAll_cons,
      perform_unnoticed hframe hpress hrelease]
  case case =>
    intro calls' h
    exact performAll_of_case h
  case idle =>
    rintro e m (hquit | hcode)
    · exact apply_of_quit hquit m
    · exact apply_of_not_char hcode m

/-- `W` is repeated after `q` was pressed, `s` is released, and five frames end. -/
theorem held_by_history_W :
    let again (c : Char) : Call := .event { code := .char c, action := .again }
    let frames := List.replicate 5 Call.endFrame
    let history := .press 'q' :: again 'W' :: .release 's' :: frames
    (performAll {} history).heldKey = some 0x5 ∧
      performAll {} history = performAll {} (.press 'q' :: again 'W' :: frames) ∧
      performAll {} (.press 'q' :: again 'w' :: .release 's' :: frames) = performAll {} history ∧
      KeyEvent.apply { code := .escape, action := .release } ⟨some (0x5, 1)⟩ = ⟨some (0x5, 1)⟩ := by
  intro again frames history
  obtain ⟨hheld, hunnoticed, hcase, hidle⟩ := held_by_history history
  have hagain (c : Char) : (again c).Presses c := by
    refine .event ?_ rfl (.inr rfl)
    simp [KeyEvent.AsksToQuit]
  have hframe (b : Call) (hb : b ∈ frames) : b = .endFrame := List.eq_of_mem_replicate hb
  have hpress : ∀ b ∈ .release 's' :: frames, ∀ k, ¬ b.PressesKey k := by
    rintro b hb k ⟨c, hc, _⟩
    rcases List.mem_cons.mp hb with rfl | hb
    · cases hc
    · cases hframe b hb
      cases hc
  have hrelease : ∀ b ∈ .release 's' :: frames, ¬ b.ReleasesKey 0x5 := by
    rintro b hb ⟨c, hc, hk⟩
    rcases List.mem_cons.mp hb with rfl | hb
    · cases hc
      exact absurd hk (by decide)
    · cases hframe b hb
      cases hc
  refine ⟨?_, ?_, ?_, hidle _ _ (.inl (.inl rfl))⟩
  · exact (hheld 0x5).mpr
      ⟨[.press 'q'], again 'W', _, rfl, ⟨'W', hagain 'W', by decide⟩, hpress, hrelease, by decide⟩
  · refine hunnoticed [.press 'q', again 'W'] (.release 's') frames rfl (by decide)
      (hpress _ List.mem_cons_self) ?_
    rintro k ⟨c, hc, hk⟩ hheld
    cases hc
    have hother : keyOf? 's' ≠ (performAll {} [.press 'q', again 'W']).heldKey := by decide
    exact hother (hk.trans hheld.symm)
  · have hrest : List.Forall₂ Call.EqualButCase (.release 's' :: frames) (.release 's' :: frames) :=
      List.forall₂_same.mpr fun b _ => .refl b
    refine hcase _ (.cons (.refl _) (.cons ?_ hrest))
    exact .event (by simp [KeyEvent.AsksToQuit]) (by simp [KeyEvent.AsksToQuit]) rfl rfl (by decide)

/-! ### Frames -/

/-- All that happens to a keymap before the steps of a frame. -/
def history (events : Nat → List KeyEvent) : Nat → List Call
  | 0 => (events 0).map .event
  | f + 1 => history events f ++ .endFrame :: (events (f + 1)).map .event

theorem performAll_events (m : Keymap) (events : List KeyEvent) :
    m.performAll (events.map .event) = m.afterEvents events :=
  List.foldl_map

/-- The keymap that a frame plays with comes about by its history, so the key held in the frame is told
by the history too. -/
theorem inFrame_eq_performAll (m : Keymap) (events : Nat → List KeyEvent) (f : Nat) :
    m.inFrame events f = m.performAll (history events f) := by
  induction f with
  | zero => exact (performAll_events m _).symm
  | succ f ih =>
    rw [inFrame, ih, history, performAll_append, performAll_cons, performAll_events]
    rfl

end Keymap

end Chip8
