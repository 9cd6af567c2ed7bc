import Esp32Eye.Lib.Run
import Mathlib.Logic.Function.Basic

/-!
# A service that peers connect to and subscribe to

The service knows each peer by a connection, and a connection has a life of its own: it is opened
from an address, it is greeted, it becomes a member, it asks to receive what is published or to
receive it no longer, as often as it likes, and it leaves. What is published goes once to each
member that watches, and to nobody else.

The state is what the service must remember. What it does can be told from the trace alone:
`Life c l p` says what the events `l` of connection `c` can be for it to be in phase `p`, and
`ServiceRun.recipients` that the recipients of anything published are the connections of which the
newest event is that they asked for it.
-/

namespace Esp32Eye
namespace Lib

section Subscription

variable {C A M : Type*}

inductive Phase (A : Type*)
  | unknown
  | connected (a : A)
  | greeted (a : A)
  | member (a : A) (watching : Bool)
  | gone

inductive ServiceEvent (C A M : Type*)
  | connected (c : C) (a : A)
  | greeted (c : C)
  | joined (c : C)
  | asked (c : C) (watching : Bool)
  | left (c : C)
  /-- `m` was sent to the members of the list -/
  | published (m : M) (recipients : List (C × A))

/-! ## One connection -/

/-- The protocol one connection follows, by its events, newest first. -/
inductive Life (c : C) : List (ServiceEvent C A M) → Phase A → Prop
  | unknown : Life c [] .unknown
  | connected {a : A} : Life c [.connected c a] (.connected a)
  | greeted {a : A} : Life c [.greeted c, .connected c a] (.greeted a)
  | joined {a : A} : Life c [.joined c, .greeted c, .connected c a] (.member a false)
  | asked {l : List (ServiceEvent C A M)} {a : A} {w w' : Bool} (h : Life c l (.member a w)) :
      Life c (.asked c w' :: l) (.member a w')
  | left {l : List (ServiceEvent C A M)} {a : A} {w : Bool} (h : Life c l (.member a w)) :
      Life c (.left c :: l) .gone

namespace Life

variable {c : C} {l : List (ServiceEvent C A M)} {p : Phase A} {a : A} {w : Bool}

theorem of_unknown (h : Life c l p) (hp : p = .unknown) : l = [] := by
  cases h with
  | unknown => rfl
  | _ => cases hp

theorem of_connected (h : Life c l p) (hp : p = .connected a) : l = [.connected c a] := by
  cases h with
  | connected => cases hp; rfl
  | _ => cases hp

theorem of_greeted (h : Life c l p) (hp : p = .greeted a) :
    l = [.greeted c, .connected c a] := by
  cases h with
  | greeted => cases hp; rfl
  | _ => cases hp

/-- A member has the address it was connected from. -/
theorem connected_mem (h : Life c l p) (hp : p = .member a w) : .connected c a ∈ l := by
  induction h generalizing w with
  | joined => cases hp; simp
  | asked _ ih =>
    cases hp
    exact List.mem_cons_of_mem _ (ih rfl)
  | _ => cases hp

/-- It watches exactly if the newest thing it did was to ask for it. -/
theorem watching_iff (h : Life c l p) :
    (∃ a, p = .member a true) ↔ ∃ l', l = .asked c true :: l' := by
  cases h with
  | @asked l a w w' h =>
    cases w' with
    | false => simp
    | true => simp
  | _ => simp

end Life

/-! ## The service -/

variable [DecidableEq C]

abbrev Service (C A : Type*) := C → Phase A

namespace Service

/-- A step is the event it is seen as. -/
inductive Step (t : Service C A) :
    ServiceEvent C A M → Service C A → List (ServiceEvent C A M) → Prop
  | connected {c : C} {a : A} (h : t c = .unknown) :
      Step t (.connected c a) (Function.update t c (.connected a)) [.connected c a]
  | greeted {c : C} {a : A} (h : t c = .connected a) :
      Step t (.greeted c) (Function.update t c (.greeted a)) [.greeted c]
  | joined {c : C} {a : A} (h : t c = .greeted a) :
      Step t (.joined c) (Function.update t c (.member a false)) [.joined c]
  | asked {c : C} {a : A} {w w' : Bool} (h : t c = .member a w) :
      Step t (.asked c w') (Function.update t c (.member a w')) [.asked c w']
  | left {c : C} {a : A} {w : Bool} (h : t c = .member a w) :
      Step t (.left c) (Function.update t c .gone) [.left c]
  | published {m : M} {recipients : List (C × A)} (hn : (recipients.map Prod.fst).Nodup)
      (hr : ∀ c a, (c, a) ∈ recipients ↔ t c = .member a true) :
      Step t (.published m recipients) t [.published m recipients]

def initial : Service C A := fun _ => .unknown

end Service

abbrev ServiceRun (ur : List (ServiceEvent C A M)) (t : Service C A) : Prop :=
  Run Service.Step (fun _ _ => True) Service.initial ur t

/-! ## What a trace says of one connection -/

def ServiceEvent.isOf (c : C) : ServiceEvent C A M → Bool
  | .connected c' _ | .greeted c' | .joined c' | .asked c' _ | .left c' => c' = c
  | .published _ _ => false

/-- The events of connection `c`, newest first. -/
def history (c : C) (ur : List (ServiceEvent C A M)) : List (ServiceEvent C A M) :=
  ur.filter (ServiceEvent.isOf c)

theorem history_cons_of {c : C} {e : ServiceEvent C A M} {ur : List (ServiceEvent C A M)}
    (h : e.isOf c = true) : history c (e :: ur) = e :: history c ur := List.filter_cons_of_pos h

theorem history_cons_other {c : C} {e : ServiceEvent C A M} {ur : List (ServiceEvent C A M)}
    (h : e.isOf c = false) : history c (e :: ur) = history c ur :=
  List.filter_cons_of_neg (by rw [h]; exact Bool.false_ne_true)

/-! ## Every run -/

section

variable {t t' : Service C A} {e : ServiceEvent C A M} {ur es : List (ServiceEvent C A M)}

/-- An event of one connection leaves the lives of the others. -/
theorem Life.update {c : C} {p : Phase A} (h : ∀ c, Life c (history c ur) (t c))
    (he : ∀ c', e.isOf c' = decide (c = c')) (hp : Life c (e :: history c ur) p) (c' : C) :
    Life c' (history c' ([e] ++ ur)) (Function.update t c p c') := by
  rcases eq_or_ne c' c with rfl | hne
  · rw [Function.update_self, List.singleton_append, history_cons_of (by rw [he]; simp)]
    exact hp
  · rw [Function.update_of_ne hne, List.singleton_append,
      history_cons_other (by rw [he]; exact decide_eq_false hne.symm)]
    exact h c'

theorem Service.Step.life (hs : t.Step e t' es) (h : ∀ c, Life c (history c ur) (t c)) :
    ∀ c, Life c (history c (es ++ ur)) (t' c) := by
  cases hs with
  | @connected c a hp =>
    refine Life.update h (fun _ => rfl) ?_
    rw [(h c).of_unknown hp]
    exact .connected
  | @greeted c a hp =>
    refine Life.update h (fun _ => rfl) ?_
    rw [(h c).of_connected hp]
    exact .greeted
  | @joined c a hp =>
    refine Life.update h (fun _ => rfl) ?_
    rw [(h c).of_greeted hp]
    exact .joined
  | @asked c a w w' hp =>
    refine Life.update h (fun _ => rfl) ?_
    have hc := h c
    rw [hp] at hc
    exact hc.asked
  | @left c a w hp =>
    refine Life.update h (fun _ => rfl) ?_
    have hc := h c
    rw [hp] at hc
    exact hc.left
  | published => exact h

/-- **Every connection follows the protocol.** -/
theorem ServiceRun.life (h : ServiceRun ur t) (c : C) : Life c (history c ur) (t c) := by
  refine h.invariant (I := fun ur t => ∀ c, Life c (history c ur) (t c)) (fun _ => .unknown) ?_ c
  intro ur t e t' es hl _ hs
  exact hs.life hl

/-- What was published in a trace went to those whose newest event before was to ask for it, once
    to each, at the address it had connected from. -/
def RightRecipients (ur : List (ServiceEvent C A M)) : Prop :=
  ∀ later m recipients earlier, ur = later ++ .published m recipients :: earlier →
    (recipients.map Prod.fst).Nodup ∧
    (∀ c, c ∈ recipients.map Prod.fst ↔ ∃ l, history c earlier = .asked c true :: l) ∧
    ∀ c a, (c, a) ∈ recipients → .connected c a ∈ earlier

theorem RightRecipients.cons (h : RightRecipients ur)
    (he : ∀ m recipients, e = .published m recipients →
      (recipients.map Prod.fst).Nodup ∧
      (∀ c, c ∈ recipients.map Prod.fst ↔ ∃ l, history c ur = .asked c true :: l) ∧
      ∀ c a, (c, a) ∈ recipients → .connected c a ∈ ur) :
    RightRecipients (e :: ur) := by
  intro later m recipients earlier heq
  cases later with
  | nil =>
    obtain ⟨rfl, rfl⟩ := List.cons.inj heq
    exact he m recipients rfl
  | cons e' later =>
    obtain ⟨rfl, rfl⟩ := List.cons.inj heq
    exact h later m recipients earlier rfl

theorem Service.Step.recipients (hs : t.Step e t' es) (hl : ∀ c, Life c (history c ur) (t c))
    (h : RightRecipients ur) : RightRecipients (es ++ ur) := by
  cases hs with
  | published hn hr =>
    refine h.cons fun m recipients heq => ?_
    cases heq
    refine ⟨hn, fun c => ?_, fun c a hca => ?_⟩
    · rw [← (hl c).watching_iff]
      constructor
      · intro hc
        obtain ⟨x, hx, rfl⟩ := List.mem_map.mp hc
        exact ⟨x.2, (hr _ _).mp hx⟩
      · rintro ⟨a, ha⟩
        exact List.mem_map_of_mem ((hr c a).mpr ha)
    · exact (List.mem_filter.mp ((hl c).connected_mem ((hr c a).mp hca))).1
  | _ => exact h.cons fun m recipients heq => by cases heq

/-- **Who receives what is published.** -/
theorem ServiceRun.recipients (h : ServiceRun ur t) : RightRecipients ur := by
  refine h.invariant_of (J := fun ur t => ∀ c, Life c (history c ur) (t c))
    (I := fun ur _ => RightRecipients ur) ?_ ?_ ?_
  · intro ur t hr c
    exact ServiceRun.life hr c
  · intro later m recipients earlier heq
    simp at heq
  · intro ur t e t' es hl hr _ hs
    exact hs.recipients hl hr

end

end Subscription

end Lib
end Esp32Eye
