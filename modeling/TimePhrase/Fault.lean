import TimePhrase.Calendar.Civil

namespace TimePhrase

/-- Failures that no wording of a phrase accounts for. -/
inductive Fault
  /-- Months, quarters or years lead outside the years 1 to 9999. -/
  | noSuchYear
  /-- A move by days or seconds leaves the calendar, or a year has no place in 32 bits. -/
  | pastCalendar
  | numeralTooLong
  /-- An instant without a zone lies within a day of the end of the calendar. -/
  | edgeOfCalendar
  | unknownZone (name : String)
  | floatingNow (wall : Civil) (fold : Bool)
  | mixedFrames
deriving DecidableEq

namespace Fault

/-- A wall time without a zone as a constructor call; zeros at its end are left out. -/
def wallLiteral (c : Civil) (fold : Bool) : String :=
  let us := c.clock.microsecond
  let fields := [c.date.year, c.date.month, c.date.day, c.clock.hour, c.clock.minute]
    ++ (if us = 0 then if c.clock.second = 0 then [] else [c.clock.second]
        else [c.clock.second, us])
  "datetime.datetime(" ++ ", ".intercalate (fields.map toString)
    ++ (if fold then ", fold=1)" else ")")

def message? : Fault → Option String
  | floatingNow wall fold => some <|
      "now must be a timezone-aware datetime.\n"
        ++ "Got naive datetime: " ++ wallLiteral wall fold ++ "\n"
        ++ "Hint: Add timezone info:\n"
        ++ "  from zoneinfo import ZoneInfo\n"
        ++ "  now = datetime(..., tzinfo=ZoneInfo('UTC'))"
  | _ => none

end Fault

instance decidableEqExcept {ε α : Type} [DecidableEq ε] [DecidableEq α] :
    DecidableEq (Except ε α)
  | .ok a, .ok b => decidable_of_iff (a = b) (by rw [Except.ok.injEq])
  | .error e, .error f => decidable_of_iff (e = f) (by rw [Except.error.injEq])
  | .ok _, .error _ => isFalse nofun
  | .error _, .ok _ => isFalse nofun

theorem eq_ok_of_toOption {ε α : Type} {x : Except ε α} {a : α}
    (h : x.toOption = some a) : x = .ok a := by
  cases x with
  | error e => cases h
  | ok b =>
    cases h
    rfl

theorem map_bind {ε α β γ : Type} (x : Except ε α) (f : α → β) (g : β → Except ε γ) :
    x.map f >>= g = x >>= fun a => g (f a) := by
  cases x <;> rfl

theorem bind_eq_ok_iff {ε α β : Type} {x : Except ε α} {f : α → Except ε β} {b : β} :
    x >>= f = .ok b ↔ ∃ a, x = .ok a ∧ f a = .ok b := by
  cases x with
  | error e => exact ⟨nofun, nofun⟩
  | ok a => exact ⟨fun h => ⟨a, rfl, h⟩, fun ⟨_, ha, h⟩ => Except.ok.inj ha ▸ h⟩

theorem bind_eq_error_iff {ε α β : Type} {x : Except ε α} {f : α → Except ε β} {e : ε} :
    x >>= f = .error e ↔ x = .error e ∨ ∃ a, x = .ok a ∧ f a = .error e := by
  cases x with
  | error e' =>
    constructor
    · exact fun h => .inl (congrArg Except.error (Except.error.inj h))
    · rintro (h | ⟨_, h, _⟩)
      · exact congrArg Except.error (Except.error.inj h)
      · cases h
  | ok a =>
    constructor
    · exact fun h => .inr ⟨a, rfl, h⟩
    · rintro (h | ⟨_, ha, h⟩)
      · cases h
      · exact Except.ok.inj ha ▸ h

theorem mapError_eq_ok_iff {ε ε' α : Type} {x : Except ε α} {f : ε → ε'} {a : α} :
    x.mapError f = .ok a ↔ x = .ok a := by
  cases x with
  | error e => exact ⟨nofun, nofun⟩
  | ok a => exact ⟨fun h => congrArg _ (Except.ok.inj h), fun h => congrArg _ (Except.ok.inj h)⟩

theorem mapError_eq_error_iff {ε ε' α : Type} {x : Except ε α} {f : ε → ε'} {e' : ε'} :
    x.mapError f = .error e' ↔ ∃ e, x = .error e ∧ f e = e' := by
  cases x with
  | error e =>
    constructor
    · exact fun h => ⟨e, rfl, Except.error.inj h⟩
    · rintro ⟨_, he, h⟩
      cases he
      exact congrArg Except.error h
  | ok a => exact ⟨nofun, nofun⟩

end TimePhrase
