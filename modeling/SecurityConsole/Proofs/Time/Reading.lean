/-
Time stamps are read as what was written.

A stamp with a zone is read as the moment it denotes, in whatever zone it is
read (`read?_zoned`). A stamp without a zone is on the clocks of the zone
given, and is read as it is with that zone behind it (`read?_own`). And what
is read of any text is within bounds (`read?_within`): a stamp with a zone
has a year of four digits, and clocks are less than a day ahead or behind,
so what they show is still far from the last day that has a date.
-/
import SecurityConsole.Time.Display
import SecurityConsole.Proofs.Time.Writing

namespace SecurityConsole.Time

open Json.Numeral (endsDigits_nil)
open Moment (daySeconds)

-- ======================================================= written stamps

section
variable {z : Zone} {w : Written}

/-- A text that reads as a stamp with a zone is read as one first. -/
theorem read?_of_zoned {s : List Char} {m : Moment}
    (hs : Text.trimBlanks s = s) (h : Stamp.zoned? s = some m) :
    read? z (String.ofList s) = some ⟨m, z.offsetAt m⟩ := by
  unfold read?
  dsimp only
  rw [String.toList_ofList, hs, h]

/-- Any other is tried in the styles without a zone, one by one. -/
theorem read?_of_zoneless {s : List Char}
    (hs : Text.trimBlanks s = s) (h : Stamp.zoned? s = none) :
    read? z (String.ofList s)
      = Stamp.styles.findSome? fun style =>
          (Stamp.plain? style s).bind z.reading? := by
  unfold read?
  dsimp only
  rw [String.toList_ofList, hs, h]

/-- A stamp without a zone is on the clocks of the zone given. -/
theorem read?_plain : read? z (String.ofList (w.chars 'T'))
    = (if w.IsReal then some w.clock else none).bind z.reading? := by
  have hzoned : Stamp.zoned? (w.chars 'T') = none := by
    have h := Stamp.zoned?_append w (s := [])
      (by decide : 'T' ∈ ['T', 't', ' ']) (by decide) endsDigits_nil
    rwa [List.append_nil] at h
  have hplain : Stamp.plain? ⟨some 'T', true⟩ (w.chars 'T')
      = if w.IsReal then some w.clock else none := by
    have h := Stamp.plain?_append w (s := []) (by decide) endsDigits_nil
    rw [List.append_nil] at h
    rw [h]
    split <;> rfl
  have hblanks : ∀ hasSeconds,
      Stamp.plain? ⟨none, hasSeconds⟩ (w.chars 'T') = none := by
    intro hasSeconds
    have h := Stamp.plain?_of_blanks w hasSeconds []
    rwa [List.append_nil] at h
  rw [read?_of_zoneless (trimBlanks_chars w 'T') hzoned]
  simp only [Stamp.styles, List.findSome?_cons, List.findSome?_nil, hplain,
    hblanks, Option.bind_none]
  cases (if w.IsReal then some w.clock else none).bind z.reading? <;> rfl

/-- A stamp with a zone is read as the moment it denotes, whatever the zone
given. -/
theorem read?_zoned (s : Zoned) :
    read? z s.text
      = some ⟨s.instant.moment, z.offsetAt s.instant.moment⟩ := by
  obtain ⟨w, h, divider, hdivider, o⟩ := s
  obtain ⟨hpoint, hends⟩ := o.chars_ends
  have hzoned : Stamp.zoned? (w.chars divider ++ o.chars)
      = some (w.instant o).moment := by
    rw [Stamp.zoned?_append w hdivider hpoint hends, o.offset?_chars,
      if_pos h, ← w.shift_clock]
    rfl
  exact read?_of_zoned (trimBlanks_zone w divider o) hzoned

/-- A stamp with a zone is not read if there is no such date or time. -/
theorem read?_unreal (h : ¬ w.IsReal) (o : ZoneText) :
    read? z (String.ofList (w.chars 'T' ++ o.chars)) = none := by
  obtain ⟨hpoint, hends⟩ := o.chars_ends
  have hzoned : Stamp.zoned? (w.chars 'T' ++ o.chars) = none := by
    rw [Stamp.zoned?_append w (by decide) hpoint hends, o.offset?_chars,
      if_neg h]
    rfl
  have hplain : Stamp.plain? ⟨some 'T', true⟩ (w.chars 'T' ++ o.chars)
      = none := by
    rw [Stamp.plain?_append w hpoint hends, if_neg h]
    rfl
  rw [read?_of_zoneless (trimBlanks_zone w 'T' o) hzoned]
  simp only [Stamp.styles, List.findSome?_cons, List.findSome?_nil, hplain,
    Stamp.plain?_of_blanks, Option.bind_none]

end

-- ============================================================= clocks

namespace Moment

theorem second_shift (m : Moment) (s : Int) :
    0 ≤ (m.shift s).second ∧ (m.shift s).second < daySeconds := by
  simp only [shift, daySeconds]
  omega

/-- Clocks that are at most two days ahead or behind show a day within two
of the day. -/
theorem day_shift {m : Moment} (h : 0 ≤ m.second ∧ m.second < daySeconds)
    {s : Int} (hs : s.natAbs ≤ 172800) :
    m.day - 2 ≤ (m.shift s).day ∧ (m.shift s).day ≤ m.day + 2 := by
  simp only [shift, seconds, daySeconds] at h ⊢
  omega

end Moment

section
variable {w : Written} (h : w.IsReal)
include h

theorem second_clock :
    0 ≤ w.clock.second ∧ w.clock.second < daySeconds := by
  obtain ⟨-, hhour, hminute, -⟩ := h
  simp only [Written.clock, daySeconds]
  omega

/-- Clocks that are less than two days off show a day that has a
date. -/
theorem isDay_clock {s : Int} (hs : s.natAbs ≤ 172800) :
    isDay (w.clock.shift s).day = true := by
  obtain ⟨hfirst, hlast⟩ := Written.date_within h
  have hday := Moment.day_shift (second_clock h) hs
  have hclock : w.clock.day = w.date.toDay := rfl
  rw [isDay_iff]
  omega

end

-- ============================================================== own zone

/-- The zone whose clocks are so many minutes ahead. -/
def Zone.ofMinutes (k : Int) : Zone := .fixed (60 * k)

section
variable {k : Int} (hk : k.natAbs < 1440) {w : Written}
include hk

/-- A stamp without a zone is read as what the clocks show at some
moment. -/
theorem read?_real (h : w.IsReal) :
    read? (.ofMinutes k) (String.ofList (w.chars 'T'))
      = some ⟨w.clock.shift (-(60 * k)), 60 * k⟩ := by
  rw [read?_plain, if_pos h]
  exact if_pos (isDay_clock h (by omega))

/-- A stamp without a zone is read as it is with the zone behind it. -/
theorem read?_own (w : Written) :
    read? (.ofMinutes k) (String.ofList (w.chars 'T'))
      = read? (.ofMinutes k)
          (String.ofList (w.chars 'T') ++ offsetText k) := by
  have hown : String.ofList (w.chars 'T') ++ offsetText k
      = String.ofList (w.chars 'T' ++ (ZoneText.ofMinutes hk).chars) := by
    rw [← toList_offsetText, String.ofList_append, String.ofList_toList]
  rw [hown]
  by_cases h : w.IsReal
  · let s : Zoned := ⟨w, h, 'T', by decide, .ofMinutes hk⟩
    have hshift := w.shift_clock (ZoneText.ofMinutes hk)
    rw [ZoneText.seconds_ofMinutes] at hshift
    rw [read?_real hk h, hshift]
    exact (read?_zoned (z := .ofMinutes k) s).symm
  · rw [read?_plain, if_neg h, read?_unreal h]
    rfl

end

-- ============================================================ what is read

/-- The bounds of what is read: there is a text for its day, on the clocks
and in universal time. -/
structure Reading.IsWithin (r : Reading) : Prop where
  day : isDay r.moment.day = true
  second : 0 ≤ r.moment.second ∧ r.moment.second < daySeconds
  clockDay : isDay r.clock.day = true

/-- A reader is a chain of steps; if it gets through, each step has. -/
theorem of_bind_eq_some {α β : Type} {x : Option α} {f : α → Option β}
    {b : β} (h : (x >>= f) = some b) : ∃ a, x = some a ∧ f a = some b :=
  Option.bind_eq_some_iff.1 h

namespace Stamp

/-- There is a date of what is read, and its second is one of a day. -/
theorem moment?_spec {date : Date} {hour minute second nano : Nat}
    {m : Moment} (h : moment? date hour minute second nano = some m) :
    date.isValid = true ∧ isDay m.day = true ∧ m.day = date.toDay
      ∧ 0 ≤ m.second ∧ m.second < daySeconds := by
  unfold moment? at h
  split at h
  · rename_i hreal
    obtain ⟨hvalid, hday, hhour, hminute, -⟩ := hreal
    obtain rfl := Option.some.inj h
    refine ⟨hvalid, hday, rfl, ?_⟩
    simp only [daySeconds]
    omega
  · cases h

/-- Clocks are less than a day ahead or behind. -/
theorem offset?_lt {s rest : List Char} {offset : Int}
    (h : offset? s = some (offset, rest)) : offset.natAbs < 86400 := by
  cases s with
  | nil => cases h
  | cons c s =>
      simp only [offset?] at h
      split at h
      · obtain ⟨rfl, -⟩ := Prod.mk.inj (Option.some.inj h)
        decide
      · split at h
        · obtain ⟨⟨hours, s₁⟩, -, h⟩ := of_bind_eq_some h
          obtain ⟨s₂, -, h⟩ := of_bind_eq_some h
          obtain ⟨⟨minutes, s₃⟩, -, h⟩ := of_bind_eq_some h
          dsimp only at h
          split at h
          · obtain ⟨rfl, -⟩ := Prod.mk.inj (Option.some.inj h)
            split <;> omega
          · cases h
        · cases h

/-- A stamp with a zone has a year of four digits. -/
theorem zoned?_spec {s : List Char} {m : Moment} (h : zoned? s = some m) :
    ∃ (clock : Moment) (offset : Int),
      firstDay + 2 ≤ clock.day ∧ clock.day + 2 ≤ lastDay
        ∧ (0 ≤ clock.second ∧ clock.second < daySeconds)
        ∧ offset.natAbs < 86400 ∧ m = clock.shift (-offset) := by
  unfold zoned? at h
  obtain ⟨⟨year, s₁⟩, hyear, h⟩ := of_bind_eq_some h
  obtain ⟨s₂, -, h⟩ := of_bind_eq_some h
  obtain ⟨⟨month, s₃⟩, -, h⟩ := of_bind_eq_some h
  obtain ⟨s₄, -, h⟩ := of_bind_eq_some h
  obtain ⟨⟨day, s₅⟩, -, h⟩ := of_bind_eq_some h
  dsimp only at h
  split at h
  · split at h
    · obtain ⟨s₆, -, h⟩ := of_bind_eq_some h
      obtain ⟨⟨hour, s₇⟩, -, h⟩ := of_bind_eq_some h
      obtain ⟨s₈, -, h⟩ := of_bind_eq_some h
      obtain ⟨⟨minute, s₉⟩, -, h⟩ := of_bind_eq_some h
      obtain ⟨s₁₀, -, h⟩ := of_bind_eq_some h
      obtain ⟨⟨second, s₁₁⟩, -, h⟩ := of_bind_eq_some h
      obtain ⟨⟨nano, s₁₂⟩, -, h⟩ := of_bind_eq_some h
      obtain ⟨⟨offset, s₁₃⟩, hoffset, h⟩ := of_bind_eq_some h
      obtain ⟨clock, hclock, h⟩ := of_bind_eq_some h
      dsimp only at hclock h
      split at h
      · obtain ⟨hvalid, -, hday, hsecond⟩ := moment?_spec hclock
        obtain ⟨hfirst, hlast⟩ := Date.toDay_within hvalid
          (Int.natCast_nonneg year)
          (Int.le_of_lt_add_one (Int.ofNat_lt.2 (number?_lt hyear)))
        exact ⟨clock, offset, hday ▸ hfirst, hday ▸ hlast, hsecond,
          offset?_lt hoffset, (Option.some.inj h).symm⟩
      · cases h
    · cases h
  · cases h

/-- A moment that was read to the end of a text is one of a day with a
date. -/
theorem moment?_of_end {date : Date} {hour minute second nano : Nat}
    {rest : Bool} {m : Moment}
    (h : (moment? date hour minute second nano >>= fun m =>
      if rest = true then some m else none) = some m) :
    isDay m.day = true ∧ 0 ≤ m.second ∧ m.second < daySeconds := by
  obtain ⟨clock, hclock, h⟩ := of_bind_eq_some h
  obtain ⟨-, hday, -, hsecond⟩ := moment?_spec hclock
  split at h
  · obtain rfl := Option.some.inj h
    exact ⟨hday, hsecond⟩
  · cases h

/-- A stamp without a zone has a date that there is. -/
theorem plain?_spec {style : Style} {s : List Char} {m : Moment}
    (h : plain? style s = some m) :
    isDay m.day = true ∧ 0 ≤ m.second ∧ m.second < daySeconds := by
  unfold plain? at h
  obtain ⟨⟨year, s₁⟩, -, h⟩ := of_bind_eq_some h
  obtain ⟨s₂, -, h⟩ := of_bind_eq_some h
  obtain ⟨⟨month, s₃⟩, -, h⟩ := of_bind_eq_some h
  obtain ⟨s₄, -, h⟩ := of_bind_eq_some h
  obtain ⟨⟨day, s₅⟩, -, h⟩ := of_bind_eq_some h
  dsimp only at h
  -- what stands between date and time makes no difference to what follows
  split at h
  all_goals
    obtain ⟨s₆, -, h⟩ := of_bind_eq_some h
    obtain ⟨⟨hour, s₇⟩, -, h⟩ := of_bind_eq_some h
    obtain ⟨s₈, -, h⟩ := of_bind_eq_some h
    obtain ⟨⟨minute, s₉⟩, -, h⟩ := of_bind_eq_some h
    dsimp only at h
    split at h
    · obtain ⟨s₁₀, -, h⟩ := of_bind_eq_some h
      obtain ⟨⟨second, s₁₁⟩, -, h⟩ := of_bind_eq_some h
      obtain ⟨⟨nano, s₁₂⟩, -, h⟩ := of_bind_eq_some h
      exact moment?_of_end h
    · exact moment?_of_end h

end Stamp

/-- What is read is within bounds, in every zone that is less than a day
ahead or behind. -/
theorem read?_within {offset : Int} (hoffset : offset.natAbs < 86400)
    {text : String} {r : Reading}
    (h : read? (.fixed offset) text = some r) :
    r.IsWithin ∧ r.offset = offset := by
  unfold read? at h
  dsimp only at h
  split at h
  · rename_i m hm
    -- with a zone of its own: two shifts of less than a day each
    obtain ⟨clock, ahead, hfirst, hlast, hsecond, hahead, rfl⟩ :=
      Stamp.zoned?_spec hm
    obtain rfl := Option.some.inj h
    have hday := Moment.day_shift hsecond (s := -ahead) (by omega)
    have hclock := Moment.day_shift hsecond (s := -ahead + offset)
      (by omega)
    have hmoment : isDay (clock.shift (-ahead)).day = true :=
      isDay_iff.2 (by omega)
    have hshown : isDay ((clock.shift (-ahead)).shift offset).day = true := by
      rw [Moment.shift_shift]
      exact isDay_iff.2 (by omega)
    exact ⟨⟨hmoment, Moment.second_shift _ _, hshown⟩, rfl⟩
  -- without one: shifted back, the clock is the one that was read
  · obtain ⟨style, hstyle, h⟩ := List.exists_of_findSome?_eq_some h
    obtain ⟨clock, hclock, h⟩ := Option.bind_eq_some_iff.1 h
    obtain ⟨hday, hlow, hhigh⟩ := Stamp.plain?_spec hclock
    simp only [Zone.reading?, Zone.offsetOf?] at h
    split at h
    · rename_i hmoment
      obtain rfl := Option.some.inj h
      have hshown : isDay ((clock.shift (-offset)).shift offset).day
          = true := by
        have hback := Moment.shift_neg_cancel hlow hhigh (-offset)
        rw [Int.neg_neg] at hback
        rw [hback]
        exact hday
      exact ⟨⟨hmoment, Moment.second_shift _ _, hshown⟩, rfl⟩
    · cases h

end SecurityConsole.Time
