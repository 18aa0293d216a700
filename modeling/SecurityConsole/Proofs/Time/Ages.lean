/-
Ages leave no gaps.

How long ago a stamp was is told in one of five ways, and the time that has
passed decides which: less than a minute, and then whole minutes, hours and
days, each rounded down, up to a week (`Age.ofNanos_cases`). The five are
told by different texts, so the text tells the age (`ages_partition_time`).

The time that has passed is the difference of two counts of nanoseconds, but
for leap seconds (`Moment.elapsed_eq`). A leap second is not counted as a
second of its own; it is added if the stamp is in one and it is later in
the day by now. So a stamp in a leap second in the middle of a day grows
younger by a second at midnight (`age_falls_at_midnight`). Elsewhere no age
ever falls.
-/
import SecurityConsole.Proofs.Json.Printing
import SecurityConsole.Proofs.Time.Showing

namespace SecurityConsole.Time

open Moment (nanos daySeconds padded)

-- ========================================================== time passed

namespace Moment

/-- The nanoseconds since day zero, leap seconds not counted. -/
def total (m : Moment) : Int := m.seconds * nanos + m.nano

/-- The leap seconds that are counted between two moments: one if the start
is in a leap second and the stop is later in the day, one less if it is the
other way round. -/
def leap (start stop : Moment) : Int :=
  if start.isLeapSecond ∧ start.second < stop.second then 1
  else if stop.isLeapSecond ∧ stop.second < start.second then -1
  else 0

/-- The time that has passed, and a second for a leap second, told
apart. -/
theorem elapsed_eq (start stop : Moment) :
    start.elapsed stop
      = stop.total - start.total + start.leap stop * nanos := by
  have helapsed : start.elapsed stop
      = (stop.seconds - start.seconds + start.leap stop) * nanos
        + ((stop.nano : Int) - start.nano) := rfl
  rw [helapsed, Int.add_mul, Int.sub_mul]
  unfold total
  omega

variable {start stop stop' : Moment}

theorem elapsed_le (htotal : stop.total ≤ stop'.total)
    (hleap : start.leap stop ≤ start.leap stop') :
    start.elapsed stop ≤ start.elapsed stop' := by
  have hmul := Int.mul_le_mul_of_nonneg_right hleap
    (by decide : 0 ≤ nanos)
  rw [elapsed_eq, elapsed_eq]
  omega

/-- Between moments that are in no leap second, no leap second is lost but
that of the start, and that one when a new day begins. -/
theorem leap_le (hstop : stop.isLeapSecond = false)
    (hstop' : stop'.isLeapSecond = false)
    (hstart : start.isLeapSecond = true → start.second < stop.second →
      start.second < stop'.second) :
    start.leap stop ≤ start.leap stop' := by
  unfold leap
  simp only [hstop, hstop', Bool.false_eq_true, false_and, if_false]
  split
  · rename_i h
    rw [if_pos ⟨h.1, hstart h.1 h.2⟩]
  · split <;> decide

end Moment

-- ================================================================== ages

namespace Age

/-- The nanoseconds of a minute. -/
def minute : Int := 60 * nanos

/-- The nanoseconds of an hour. -/
def hour : Int := 60 * minute

/-- The nanoseconds of a day. -/
def day : Int := 24 * hour

/-- The nanoseconds of a week. -/
def week : Int := 7 * day

/-- The time that has passed decides on the age, and there is an age for
every time. -/
theorem ofNanos_cases (d : Int) :
    (d < minute ∧ ofNanos d = .now)
      ∨ (minute ≤ d ∧ d < hour ∧ ofNanos d = .minutes (d / minute))
      ∨ (hour ≤ d ∧ d < day ∧ ofNanos d = .hours (d / hour))
      ∨ (day ≤ d ∧ d < week ∧ ofNanos d = .days (d / day))
      ∨ (week ≤ d ∧ ofNanos d = .old) := by
  have hseconds : d / nanos < 60 ↔ d < minute := by
    simp only [minute, nanos]
    omega
  have hminutes : d / nanos / 60 = d / minute := by
    simp only [minute, nanos]
    omega
  have hhours : d / nanos / 3600 = d / hour := by
    simp only [hour, minute, nanos]
    omega
  have hdays : d / nanos / 86400 = d / day := by
    simp only [day, hour, minute, nanos]
    omega
  unfold ofNanos
  dsimp only
  rw [hminutes, hhours, hdays]
  by_cases hnow : d < minute
  · rw [if_pos (hseconds.2 hnow)]
    exact .inl ⟨hnow, rfl⟩
  rw [if_neg fun h => hnow (hseconds.1 h)]
  have hunits : (d / minute < 60 ↔ d < hour) ∧ (d / hour < 24 ↔ d < day)
      ∧ (d / day < 7 ↔ d < week) := by
    simp only [week, day, hour, minute, nanos]
    omega
  obtain ⟨hhour, hday, hweek⟩ := hunits
  split
  · exact .inr (.inl ⟨Int.not_lt.1 hnow, hhour.1 ‹_›, rfl⟩)
  · rename_i hpast
    have hpast := Int.not_lt.1 fun h => hpast (hhour.2 h)
    split
    · exact .inr (.inr (.inl ⟨hpast, hday.1 ‹_›, rfl⟩))
    · rename_i hpast
      have hpast := Int.not_lt.1 fun h => hpast (hday.2 h)
      split
      · exact .inr (.inr (.inr (.inl ⟨hpast, hweek.1 ‹_›, rfl⟩)))
      · rename_i hpast
        exact .inr (.inr (.inr (.inr
          ⟨Int.not_lt.1 fun h => hpast (hweek.2 h), rfl⟩)))

/-- The five stretches of time, one behind the other, and what is told in
each. -/
theorem ofNanos_iff (d : Int) :
    (ofNanos d = .now ↔ d < minute)
      ∧ (∀ n, ofNanos d = .minutes n
        ↔ minute ≤ d ∧ d < hour ∧ n = d / minute)
      ∧ (∀ n, ofNanos d = .hours n ↔ hour ≤ d ∧ d < day ∧ n = d / hour)
      ∧ (∀ n, ofNanos d = .days n ↔ day ≤ d ∧ d < week ∧ n = d / day)
      ∧ (ofNanos d = .old ↔ week ≤ d) := by
  have hd := ofNanos_cases d
  rcases hd with ⟨hd, hage⟩ | ⟨hd, hd', hage⟩ | ⟨hd, hd', hage⟩
    | ⟨hd, hd', hage⟩ | ⟨hd, hage⟩ <;> rw [hage]
  all_goals
    refine ⟨?_, fun n => ?_, fun n => ?_, fun n => ?_, ?_⟩ <;>
    simp only [reduceCtorEq, true_iff, false_iff, minutes.injEq, hours.injEq,
      days.injEq, week, day, hour, minute, nanos] at * <;>
    omega

/-- The place of an age among the five. -/
def rank : Age → Nat
  | .now => 0
  | .minutes _ => 1
  | .hours _ => 2
  | .days _ => 3
  | .old => 4

/-- When an age begins, in nanoseconds. -/
def since : Age → Int
  | .now => 0
  | .minutes n => n * minute
  | .hours n => n * hour
  | .days n => n * day
  | .old => week

/-- As time passes, no age falls: neither to one of the five before it, nor
to fewer units. -/
theorem ofNanos_mono {d e : Int} (h : d ≤ e) :
    (ofNanos d).rank ≤ (ofNanos e).rank
      ∧ (ofNanos d).since ≤ (ofNanos e).since := by
  have hd := ofNanos_cases d
  have he := ofNanos_cases e
  rcases hd with ⟨hd, hage⟩ | ⟨hd, hd', hage⟩ | ⟨hd, hd', hage⟩
    | ⟨hd, hd', hage⟩ | ⟨hd, hage⟩ <;>
  rcases he with ⟨he, hage'⟩ | ⟨he, he', hage'⟩ | ⟨he, he', hage'⟩
    | ⟨he, he', hage'⟩ | ⟨he, hage'⟩ <;>
  · rw [hage, hage']
    simp only [rank, since, week, day, hour, minute, nanos] at *
    omega

end Age

-- ================================================================= texts

/-- Whether a text is a word without blanks and more behind a blank. -/
structure IsSplit (text : String) (word rest : List Char) : Prop where
  chars : text.toList = word ++ ' ' :: rest
  blankless : ' ' ∉ word

/-- A text is split in one way only. -/
theorem IsSplit.unique {text : String} {word rest word' rest' : List Char}
    (h : IsSplit text word rest) (h' : IsSplit text word' rest') :
    word = word' ∧ rest = rest' := by
  have hword : ∀ {word rest}, IsSplit text word rest →
      text.toList.takeWhile (· ≠ ' ') = word := by
    intro word rest h
    have hne : ∀ c ∈ word, decide (c ≠ ' ') = true := by
      intro c hc
      refine decide_eq_true ?_
      rintro rfl
      exact h.blankless hc
    rw [h.chars, List.takeWhile_append_of_pos hne,
      List.takeWhile_cons_of_neg (by simp), List.append_nil]
  obtain rfl : word = word' := (hword h).symm.trans (hword h')
  have hrest := h.chars.symm.trans h'.chars
  exact ⟨rfl, (List.cons.inj (List.append_cancel_left hrest)).2⟩

theorem blankless_digits {s : List Char}
    (h : ∀ c ∈ s, c.isDigit = true) : ' ' ∉ s :=
  fun hc => absurd (h ' ' hc) (by decide)

/-- A number with words behind it. -/
theorem isSplit_number (n : Int) {words : String} {rest : List Char}
    (h : words.toList = ' ' :: rest) :
    IsSplit (toString n ++ words) (toString n).toList rest where
  chars := by rw [String.toList_append, h]
  blankless := by
    rw [Json.toList_toString, List.mem_append, not_or]
    constructor
    · unfold Json.minus
      split <;> decide
    · exact blankless_digits fun _ hc =>
        Nat.isDigit_of_mem_toDigits (by decide) (by decide) hc

/-- A date has no blanks. -/
theorem blankless_dateText (m : Moment) : ' ' ∉ m.dateText.toList := by
  have hyear : ' ' ∉ (Moment.yearText (Date.ofDay m.day).year).toList := by
    obtain ⟨ds, -, hchars⟩ | ⟨sign, width, ds, -, hsign, hchars⟩ :=
      yearText_cases (Date.ofDay m.day).year
    · rw [hchars]
      exact blankless_digits ds.isDigit
    · have hne : ' ' ≠ sign := by
        obtain ⟨rfl, -⟩ | ⟨rfl, -⟩ := hsign <;> decide
      rw [hchars]
      exact List.not_mem_cons_of_ne_of_not_mem hne
        (blankless_digits ds.isDigit)
  have hdash : ' ' ≠ '-' := by decide
  rw [toList_dateText]
  simp only [List.mem_append, List.mem_cons, not_or]
  exact ⟨hyear, hdash, blankless_digits (isDigit_padded _ _), hdash,
    blankless_digits (isDigit_padded _ _)⟩

/-- A date with a time behind it, which begins with a digit. -/
theorem isSplit_dateTimeText (m : Moment) : ∃ c rest,
    IsSplit m.dateTimeText m.dateText.toList (c :: rest)
      ∧ c.isDigit = true := by
  have hne : (padded 2 (m.second / 3600).toNat).toList ≠ [] := by
    intro hnil
    have hlength := length_padded 2 (m.second / 3600).toNat
    rw [hnil, List.length_nil] at hlength
    omega
  obtain ⟨c, cs, hhour⟩ := List.exists_cons_of_ne_nil hne
  have hc : c.isDigit = true :=
    isDigit_padded 2 (m.second / 3600).toNat c (hhour ▸ List.mem_cons_self)
  exact ⟨c, _, ⟨by rw [toList_dateTimeText, hhour, List.cons_append],
    blankless_dateText m⟩, hc⟩

namespace Age

/-- An age as a text, with the text of what is a week old. -/
def text (shown : String) : Age → String
  | .now => "just now"
  | .minutes n => s!"{n} minutes ago"
  | .hours n => s!"{n} hours ago"
  | .days n => s!"{n} days ago"
  | .old => shown

/-- The stamp is shown only if it is a week old. -/
theorem text_of_ne_old {a : Age} (h : a ≠ .old) (shown shown' : String) :
    a.text shown = a.text shown' := by
  cases a with
  | old => exact absurd rfl h
  | _ => rfl

/-- What the word in front of the first blank and the character behind it
tell about an age. -/
def Told : Age → List Char → Char → Prop
  | .now, _, c => c = 'n'
  | .minutes n, word, c => word = (toString n).toList ∧ c = 'm'
  | .hours n, word, c => word = (toString n).toList ∧ c = 'h'
  | .days n, word, c => word = (toString n).toList ∧ c = 'd'
  | .old, _, c => c.isDigit = true

/-- Each kind of age begins with its own word, or with its number and
then its own letter. -/
theorem told_text (m : Moment) (a : Age) : ∃ word c rest,
    IsSplit (a.text m.dateTimeText) word (c :: rest) ∧ a.Told word c := by
  cases a with
  | now =>
      have hsplit : IsSplit "just now" "just".toList ('n' :: "ow".toList) :=
        ⟨by decide, by decide⟩
      exact ⟨_, _, _, hsplit, rfl⟩
  | minutes n =>
      have h : " minutes ago".toList = ' ' :: 'm' :: "inutes ago".toList := by
        decide
      exact ⟨_, _, _, isSplit_number n h, rfl, rfl⟩
  | hours n =>
      have h : " hours ago".toList = ' ' :: 'h' :: "ours ago".toList := by
        decide
      exact ⟨_, _, _, isSplit_number n h, rfl, rfl⟩
  | days n =>
      have h : " days ago".toList = ' ' :: 'd' :: "ays ago".toList := by
        decide
      exact ⟨_, _, _, isSplit_number n h, rfl, rfl⟩
  | old =>
      obtain ⟨c, rest, hsplit, hc⟩ := isSplit_dateTimeText m
      exact ⟨_, c, rest, hsplit, hc⟩

/-- No two ages begin with the same word and letter: kinds differ in the
letter, and of one kind the number is the word. -/
theorem Told.unique {a b : Age} {word : List Char} {c : Char}
    (h : a.Told word c) (h' : b.Told word c) : a = b := by
  have hnumber : ∀ {n k : Int}, word = (toString n).toList →
      word = (toString k).toList → n = k := fun h h' =>
    Json.toString_injective (String.toList_inj.1 (h.symm.trans h'))
  cases a <;> cases b
  case now.now => rfl
  case minutes.minutes => exact congrArg minutes (hnumber h.1 h'.1)
  case hours.hours => exact congrArg hours (hnumber h.1 h'.1)
  case days.days => exact congrArg days (hnumber h.1 h'.1)
  case old.old => rfl
  -- the character tells the others apart
  all_goals simp_all [Told]

/-- The text of an age tells it. -/
theorem text_inj {m : Moment} {a b : Age} :
    a.text m.dateTimeText = b.text m.dateTimeText ↔ a = b := by
  refine ⟨fun h => ?_, fun h => h ▸ rfl⟩
  obtain ⟨word, c, rest, hsplit, htold⟩ := told_text m a
  obtain ⟨word', c', rest', hsplit', htold'⟩ := told_text m b
  rw [h] at hsplit
  obtain ⟨rfl, hrest⟩ := hsplit.unique hsplit'
  obtain ⟨rfl, -⟩ := List.cons.inj hrest
  exact htold.unique htold'

end Age

-- =============================================================== the ages

section
variable {z : Zone} {text : String} {r : Reading}

theorem showDateTime_of_read (h : read? z text = some r) :
    showDateTime z (some text) = r.clock.dateTimeText := by
  unfold showDateTime display
  rw [Option.bind_some, h]
  rfl

/-- The age of a stamp that is read is told, with the stamp as it is shown
if it is a week old. -/
theorem showAge_of_read (h : read? z text = some r) (now : Moment) :
    showAge z now (some text)
      = (r.age now).text r.clock.dateTimeText := by
  unfold showAge display
  rw [Option.bind_some, h]
  show r.ageText now = _
  unfold Reading.ageText
  cases r.age now <;> rfl

end

/-- Ages leave no gaps, and as time passes they grow.

The time that has passed since a stamp decides what is told: less than a
minute, whole minutes, hours or days, or the stamp itself from a week on.
Below a week, the moment of the stamp is all that counts. From one moment
to a later one, both in no leap second, no age falls, unless the stamp is in
a leap second, and the later moment is no longer later in its day than the
stamp is, while the other one is. -/
theorem ages_partition_time {z : Zone} {text : String} {r : Reading}
    (h : read? z text = some r) (now : Moment) :
    let d := r.moment.elapsed now
    let label := showAge z now (some text)
    d = now.total - r.moment.total + r.moment.leap now * nanos
      ∧ (label = "just now" ↔ d < Age.minute)
      ∧ (∀ n : Int, label = s!"{n} minutes ago"
        ↔ Age.minute ≤ d ∧ d < Age.hour ∧ n = d / Age.minute)
      ∧ (∀ n : Int, label = s!"{n} hours ago"
        ↔ Age.hour ≤ d ∧ d < Age.day ∧ n = d / Age.hour)
      ∧ (∀ n : Int, label = s!"{n} days ago"
        ↔ Age.day ≤ d ∧ d < Age.week ∧ n = d / Age.day)
      ∧ (label = showDateTime z (some text) ↔ Age.week ≤ d)
      ∧ (Age.minute ≤ d ∧ d < Age.hour →
        1 ≤ d / Age.minute ∧ d / Age.minute ≤ 59)
      ∧ (Age.hour ≤ d ∧ d < Age.day →
        1 ≤ d / Age.hour ∧ d / Age.hour ≤ 23)
      ∧ (Age.day ≤ d ∧ d < Age.week → 1 ≤ d / Age.day ∧ d / Age.day ≤ 6)
      ∧ (d < Age.week → ∀ z' text' r', read? z' text' = some r' →
        r'.moment = r.moment → showAge z' now (some text') = label)
      ∧ ∀ later : Moment, now.isLeapSecond = false →
        later.isLeapSecond = false → now.total ≤ later.total →
        (r.moment.isLeapSecond = true → r.moment.second < now.second →
          r.moment.second < later.second) →
        (r.age now).rank ≤ (r.age later).rank
          ∧ (r.age now).since ≤ (r.age later).since := by
  intro d label
  have hlabel : label = (r.age now).text r.clock.dateTimeText :=
    showAge_of_read h now
  obtain ⟨hnow, hminutes, hhours, hdays, hold⟩ := Age.ofNanos_iff d
  have htells : ∀ a : Age,
      label = a.text r.clock.dateTimeText ↔ Age.ofNanos d = a := by
    intro a
    rw [hlabel]
    exact Age.text_inj
  have hbounds : (Age.minute ≤ d ∧ d < Age.hour →
        1 ≤ d / Age.minute ∧ d / Age.minute ≤ 59)
      ∧ (Age.hour ≤ d ∧ d < Age.day →
        1 ≤ d / Age.hour ∧ d / Age.hour ≤ 23)
      ∧ (Age.day ≤ d ∧ d < Age.week →
        1 ≤ d / Age.day ∧ d / Age.day ≤ 6) := by
    simp only [Age.week, Age.day, Age.hour, Age.minute, nanos]
    omega
  refine ⟨Moment.elapsed_eq .., (htells .now).trans hnow,
    fun n => (htells (.minutes n)).trans (hminutes n),
    fun n => (htells (.hours n)).trans (hhours n),
    fun n => (htells (.days n)).trans (hdays n), ?_, hbounds.1, hbounds.2.1,
    hbounds.2.2, ?_, ?_⟩
  · rw [showDateTime_of_read h]
    exact (htells .old).trans hold
  · intro hweek z' text' r' h' hmoment
    have hyoung : Age.ofNanos d ≠ .old := fun heq =>
      absurd (hold.1 heq) (Int.not_le.2 hweek)
    have hage : r'.age now = r.age now := by
      unfold Reading.age
      rw [hmoment]
    rw [showAge_of_read h' now, hlabel, hage]
    exact Age.text_of_ne_old hyoung _ _
  · intro later hnow hlater htotal hstart
    exact Age.ofNanos_mono (Moment.elapsed_le htotal
      (Moment.leap_le hnow hlater hstart))

/-- An hour ends to the nanosecond, on the clocks of Shanghai and on those of
universal time. -/
theorem hour_after_noon :
    let z := Zone.ofMinutes 480
    let text := "2024-03-10T20:00:00.5+08:00"
    let r : Reading := ⟨⟨19792, 43200, 500000000⟩, 28800⟩
    let now : Moment := ⟨19792, 46800, 499999999⟩
    let later : Moment := ⟨19792, 46800, 500000000⟩
    read? z text = some r
      ∧ showAge z now (some text) = "59 minutes ago"
      ∧ showAge z later (some text) = "1 hours ago"
      ∧ showAge .universal later (some "2024-03-10 12:00:00.5")
        = "1 hours ago"
      ∧ (r.age now).rank ≤ (r.age later).rank := by
  intro z text r now later
  have hread : read? z text = some r := by decide +kernel
  have hplain : read? .universal "2024-03-10 12:00:00.5"
      = some ⟨r.moment, 0⟩ := by decide +kernel
  obtain ⟨-, -, hminutes, -, -, -, -, -, -, -, hgrows⟩ :=
    ages_partition_time hread now
  obtain ⟨-, -, -, hhours, -, -, -, -, -, hsame, -⟩ :=
    ages_partition_time hread later
  have hlater : showAge z later (some text) = "1 hours ago" :=
    (hhours 1).2 (by decide +kernel)
  refine ⟨hread, (hminutes 59).2 (by decide +kernel), hlater, ?_, ?_⟩
  · exact (hsame (by decide +kernel) _ _ _ hplain rfl).trans hlater
  · exact (hgrows later rfl rfl (by decide +kernel)
      fun hleap => Bool.noConfusion hleap).1

/-- A stamp in a leap second in the middle of a day grows younger at
midnight; and so does a stamp that was seen from a leap second, when that
has passed. -/
theorem age_falls_at_midnight :
    let stamp := some "2024-03-10T22:59:60.7Z"
    let evening := Moment.ofMillis 1710115199900
    let midnight := Moment.ofMillis 1710115200000
    let last := some "2016-12-31T23:59:00.3Z"
    let leap : Moment := ⟨17166, 86399, 1500000000⟩
    let year : Moment := ⟨17167, 0, 0⟩
    evening.total < midnight.total
      ∧ showAge .universal evening stamp = "1 hours ago"
      ∧ showAge .universal midnight stamp = "59 minutes ago"
      ∧ leap.day < year.day
      ∧ showAge .universal leap last = "1 minutes ago"
      ∧ showAge .universal year last = "just now" := by
  decide +kernel

end SecurityConsole.Time
