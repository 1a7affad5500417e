/-! Days of the week, Monday first. -/
namespace FleetSizing

inductive Weekday where
  | mon | tue | wed | thu | fri | sat | sun
  deriving DecidableEq, Repr, Inhabited

namespace Weekday

def all : List Weekday := [mon, tue, wed, thu, fri, sat, sun]

/-- Days since Monday. -/
def index : Weekday → Nat
  | mon => 0 | tue => 1 | wed => 2 | thu => 3 | fri => 4 | sat => 5 | sun => 6

/-- The day so many days after some Monday. -/
def ofIndex (n : Nat) : Weekday :=
  match n % 7 with
  | 0 => mon | 1 => tue | 2 => wed | 3 => thu | 4 => fri | 5 => sat | _ => sun

def next : Weekday → Weekday
  | mon => tue | tue => wed | wed => thu | thu => fri | fri => sat | sat => sun | sun => mon

def prev : Weekday → Weekday
  | mon => sun | tue => mon | wed => tue | thu => wed | fri => thu | sat => fri | sun => sat

def name : Weekday → String
  | mon => "Mon" | tue => "Tue" | wed => "Wed" | thu => "Thu" | fri => "Fri" | sat => "Sat"
  | sun => "Sun"

def fullName : Weekday → String
  | mon => "Monday" | tue => "Tuesday" | wed => "Wednesday" | thu => "Thursday" | fri => "Friday"
  | sat => "Saturday" | sun => "Sunday"

def lower (s : String) : List Char := s.toList.map Char.toLower

/-- Either name, in any ASCII case. -/
def parse? (s : String) : Option Weekday :=
  all.find? fun d => lower s == lower d.name || lower s == lower d.fullName

theorem index_lt (d : Weekday) : d.index < 7 := by cases d <;> decide

@[simp] theorem ofIndex_index (d : Weekday) : ofIndex d.index = d := by cases d <;> rfl

theorem index_ofIndex (n : Nat) : (ofIndex n).index = n % 7 := by
  have h : n % 7 = 0 ∨ n % 7 = 1 ∨ n % 7 = 2 ∨ n % 7 = 3 ∨ n % 7 = 4 ∨ n % 7 = 5 ∨ n % 7 = 6 := by
    omega
  rcases h with h | h | h | h | h | h | h <;> simp [ofIndex, index, h]

@[simp] theorem next_prev (d : Weekday) : d.prev.next = d := by cases d <;> rfl

@[simp] theorem prev_next (d : Weekday) : d.next.prev = d := by cases d <;> rfl

theorem index_inj {a b : Weekday} (h : a.index = b.index) : a = b := by
  rw [← ofIndex_index a, h, ofIndex_index]

theorem mem_all (d : Weekday) : d ∈ all := by cases d <;> decide

end Weekday

end FleetSizing
