import LinkRouting.Dispatcher

/-!
# What a dispatcher went through

A dispatcher is reached from the empty one by registering patterns and by configuring it.
`Reached log d` says so, where the log holds the registrations that were not refused, the latest
first: the handler of a pattern is then the first one that the log has for it.

A registration that is refused leaves the dispatcher as it is, so that a series of registrations
always leads to a dispatcher (`registerEach`); `accepted` are those of the series that were not
refused.
-/

namespace LinkRouting
namespace Dispatcher
variable {η υ : Type}

/-- The dispatchers that a log of registrations, the latest first, leads to. -/
inductive Reached : List (String × η) → Dispatcher η υ → Prop
  | empty : Reached [] .empty
  | register {log : List (String × η)} {d d' : Dispatcher η υ} {pattern : String} {handler : η} :
      Reached log d → d.register pattern handler = .ok d' → Reached ((pattern, handler) :: log) d'
  | configure {log : List (String × η)} {d : Dispatcher η υ} (settings : Settings) :
      Reached log d → Reached log (d.configure settings)
  | withFallback {log : List (String × η)} {d : Dispatcher η υ} (handler : υ) :
      Reached log d → Reached log (d.withFallback handler)

/-- The dispatcher after a registration, whether it is refused or not. -/
def attempt (d : Dispatcher η υ) (pattern : String) (handler : η) : Dispatcher η υ :=
  match d.register pattern handler with
  | .ok d' => d'
  | .error _ => d

/-- The dispatcher after a series of registrations, of which some may be refused. -/
def registerEach (d : Dispatcher η υ) : List (String × η) → Dispatcher η υ
  | [] => d
  | (pattern, handler) :: rest => (d.attempt pattern handler).registerEach rest

/-- Those registrations of a series that are not refused. -/
def accepted (d : Dispatcher η υ) : List (String × η) → List (String × η)
  | [] => []
  | (pattern, handler) :: rest =>
    match d.register pattern handler with
    | .ok d' => (pattern, handler) :: d'.accepted rest
    | .error _ => d.accepted rest

/-- The log of a series, behind an earlier one. -/
theorem Reached.registerEach {log : List (String × η)} {d : Dispatcher η υ} (h : Reached log d)
    (series : List (String × η)) :
    Reached ((d.accepted series).reverse ++ log) (d.registerEach series) := by
  induction series generalizing log d with
  | nil => exact h
  | cons entry rest ih =>
    obtain ⟨pattern, handler⟩ := entry
    rw [accepted, Dispatcher.registerEach, attempt]
    cases hreg : d.register pattern handler with
    | error refusal => exact ih h
    | ok d' =>
      have hrest := ih (h.register hreg)
      rwa [List.append_cons, ← List.reverse_cons] at hrest

end Dispatcher
end LinkRouting
