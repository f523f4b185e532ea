import AnalyticsGateway.Calendar
import AnalyticsGateway.Moment

/-!
# One clock

Moments that one clock tells: the span since its start and the calendar go on together. The calendar
has a last day, long before the last millisecond that a row of a table can hold.
-/

namespace AnalyticsGateway

theorem Duration.le_refl (a : Duration) : a ≤ a := Nat.le_refl a.nanoseconds

theorem Duration.le_trans {a b c : Duration} (h : a ≤ b) (h' : b ≤ c) : a ≤ c :=
  Nat.le_trans h h'

theorem Duration.add_le_add {a b c d : Duration} (h : a ≤ b) (h' : c ≤ d) : a.add c ≤ b.add d :=
  Nat.add_le_add h h'

/-- What a clock tells so many nanoseconds after its start. -/
def Moment.onClock (start : Int) (t : Nat) : Moment := ⟨⟨t⟩, ⟨start + t⟩⟩

theorem Moment.onClock_inj {start : Int} {t u : Nat} (h : onClock start t = onClock start u) :
    t = u := congrArg (·.clock.nanoseconds) h

/-- The calendar has a day for it. -/
def Timestamp.InCalendar (t : Timestamp) : Prop :=
  Calendar.isInRange (t.nanoseconds / Calendar.nanosecondsOfDay) = true

instance (t : Timestamp) : Decidable t.InCalendar := inferInstanceAs (Decidable (_ = true))

theorem Timestamp.InCalendar.bounds {t : Timestamp} (h : t.InCalendar) :
    -8334601228800000000000 ≤ t.nanoseconds ∧ t.nanoseconds < 8210266876800000000000 := by
  have first : Date.daysBeforeYear Calendar.firstYear = -96465292 := rfl
  have last : Date.daysBeforeYear (Calendar.lastYear + 1) = 95026237 := rfl
  simp only [InCalendar, Calendar.isInRange, first, last, Bool.and_eq_true, decide_eq_true_eq,
    Calendar.nanosecondsOfDay] at h
  omega

/-- The clock tells the moment on some day of the calendar. -/
def Moment.IsTold (start : Int) (m : Moment) : Prop :=
  m.time.InCalendar ∧ ∃ t, m = .onClock start t

/-- The calendar has far fewer milliseconds than a word. -/
theorem Moment.IsTold.fitsWord {start : Int} {now later : Moment} (told : now.IsTold start)
    (told' : later.IsTold start) : FitsWord (later.calendar - now.calendar) := by
  have first := told.1.bounds
  have last := told'.1.bounds
  rw [FitsWord, wordSize_63]
  simp only [Moment.calendar, Timestamp.milliseconds]
  omega

end AnalyticsGateway
