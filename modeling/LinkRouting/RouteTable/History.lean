import LinkRouting.RouteTable

/-!
# What a route table went through

A table is reached from the empty one by registering patterns and by switching the decoding of
captures (`Reachable`).  A registration that is refused leaves the table as it is, so that a series
of registrations always leads to a table (`registerEach`); `accepted` are those of the series that
were not refused.  A table has a pattern registered if it comes, by whatever steps, after one in
which the pattern was accepted (`HasRegistered`).
-/

namespace LinkRouting
namespace RouteTable
variable {ι : Type}

/-- The tables that registrations lead to. -/
inductive Reachable : RouteTable ι → Prop
  | empty : Reachable .empty
  | register {r r' : RouteTable ι} {pattern : String} {i : ι} :
      Reachable r → r.register pattern i = .ok r' → Reachable r'
  | withDecoding {r : RouteTable ι} (decode : Bool) :
      Reachable r → Reachable (r.withDecoding decode)

/-- The tables that come after a table. -/
inductive LeadsTo (r : RouteTable ι) : RouteTable ι → Prop
  | refl : LeadsTo r r
  | register {r' r'' : RouteTable ι} {pattern : String} {i : ι} :
      LeadsTo r r' → r'.register pattern i = .ok r'' → LeadsTo r r''
  | withDecoding {r' : RouteTable ι} (decode : Bool) :
      LeadsTo r r' → LeadsTo r (r'.withDecoding decode)

/-- The pattern was accepted at some time before. -/
def HasRegistered (r : RouteTable ι) (pattern : String) : Prop :=
  ∃ (before first : RouteTable ι) (i : ι),
    before.Reachable ∧ before.register pattern i = .ok first ∧ first.LeadsTo r

/-- The table after a registration, whether it is refused or not. -/
def attempt (r : RouteTable ι) (pattern : String) (i : ι) : RouteTable ι :=
  match r.register pattern i with
  | .ok r' => r'
  | .error _ => r

/-- The table after a series of registrations, of which some may be refused. -/
def registerEach (r : RouteTable ι) : List (String × ι) → RouteTable ι
  | [] => r
  | (pattern, i) :: rest => (r.attempt pattern i).registerEach rest

/-- Those registrations of a series that are not refused. -/
def accepted (r : RouteTable ι) : List (String × ι) → List (String × ι)
  | [] => []
  | (pattern, i) :: rest =>
    match r.register pattern i with
    | .ok r' => (pattern, i) :: r'.accepted rest
    | .error _ => r.accepted rest

theorem Reachable.attempt {r : RouteTable ι} (h : r.Reachable) (pattern : String) (i : ι) :
    (r.attempt pattern i).Reachable := by
  unfold RouteTable.attempt
  split
  · next hr => exact h.register hr
  · exact h

theorem Reachable.registerEach {r : RouteTable ι} (h : r.Reachable)
    (series : List (String × ι)) : (r.registerEach series).Reachable := by
  induction series generalizing r with
  | nil => exact h
  | cons p rest ih => exact ih (h.attempt p.1 p.2)

theorem Reachable.leadsTo {r r' : RouteTable ι} (h : r.Reachable) (hr' : r.LeadsTo r') :
    r'.Reachable := by
  induction hr' with
  | refl => exact h
  | register _ hreg ih => exact ih.register hreg
  | withDecoding decode _ ih => exact ih.withDecoding decode

theorem LeadsTo.attempt {r r' : RouteTable ι} (h : r.LeadsTo r') (pattern : String) (i : ι) :
    r.LeadsTo (r'.attempt pattern i) := by
  unfold RouteTable.attempt
  split
  · next hreg => exact h.register hreg
  · exact h

theorem LeadsTo.registerEach {r r' : RouteTable ι} (h : r.LeadsTo r')
    (series : List (String × ι)) : r.LeadsTo (r'.registerEach series) := by
  induction series generalizing r' with
  | nil => exact h
  | cons p rest ih => exact ih (h.attempt p.1 p.2)

theorem LeadsTo.trans {r r' r'' : RouteTable ι} (h : r.LeadsTo r') (h' : r'.LeadsTo r'') :
    r.LeadsTo r'' := by
  induction h' with
  | refl => exact h
  | register _ hreg ih => exact ih.register hreg
  | withDecoding decode _ ih => exact ih.withDecoding decode

/-- What was registered stays registered in the tables that come after. -/
theorem HasRegistered.leadsTo {r r' : RouteTable ι} {pattern : String}
    (h : r.HasRegistered pattern) (hr' : r.LeadsTo r') : r'.HasRegistered pattern := by
  obtain ⟨before, first, i, hbefore, hreg, hleads⟩ := h
  exact ⟨before, first, i, hbefore, hreg, hleads.trans hr'⟩

end RouteTable
end LinkRouting
