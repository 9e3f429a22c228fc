import Polystore.Proofs.Native.Reported

/-!
# Replies that are read

A session reads what it needs out of the reply to a call. It ends at the first reply that is an
error or cannot be read.

* `Session.readReply`, `Session.meets_read`: a call whose reply is read;
* `Session.Halts`: exchanges up to the first one that is not of a kind;
* **`Session.Needs`**: sessions that halt in this way, with a rule for each way to make one.
-/

namespace Polystore.Session

variable {α β : Type} {n : Nat} {r : Request} {C : Exchange → Prop} {s : Session α}
  {f : α → Session β}

/-- What is read out of a reply; an error of the client is handed on. -/
def readReply {c : Call} (read : c.request.Answer → Except Fault α) : c.Reply → Except Failure α
  | .ok answer => (read answer).mapError .fault
  | .error e => .error (unwatched e)

theorem readReply_eq_ok_iff {c : Call} {read : c.request.Answer → Except Fault α}
    {reply : c.Reply} {x : α} :
    readReply read reply = .ok x ↔ ∃ answer, reply = .ok answer ∧ read answer = .ok x := by
  cases reply with
  | error e => simp [readReply]
  | ok answer => simp [readReply, Except.mapError_eq_ok_iff]

theorem meets_read {read : r.Answer → Except Fault α} {Q : List Exchange → Except Failure β → Prop}
    (hok : ∀ answer x, read answer = .ok x →
      (f x).Meets fun ys result => Q (⟨⟨n, r⟩, .ok answer⟩ :: ys) result)
    (herror : ∀ (reply : Call.Reply ⟨n, r⟩) e, readReply read reply = .error e →
      Q [⟨⟨n, r⟩, reply⟩] (.error e)) :
    (Session.ask n r >>= fun answer => ofFault (read answer) >>= f).Meets Q := by
  refine meets_bind.mpr (meets_ask.mpr ⟨fun answer => ?_, fun e => herror (.error e) _ rfl⟩)
  refine meets_bind.mpr (meets_ofFault.mpr ?_)
  cases hanswer : read answer with
  | ok x => exact hok answer x hanswer
  | error f => exact herror (.ok answer) (.fault f) (by rw [readReply, hanswer]; rfl)

/-- A session that comes to its result as long as all exchanges are of one kind, and halts at the
first one that is not. -/
structure Halts (C : Exchange → Prop) (xs : List Exchange) (result : Except Failure α) : Prop where
  last : xs.Pairwise fun x _ => C x
  raised : ∀ x ∈ xs, ∀ e, x.reply = .error e → result = .error (unwatched e)
  gives : (∃ y, result = .ok y) ↔ ∀ x ∈ xs, C x

namespace Halts

variable {xs ys : List Exchange}

theorem nil {x : α} : Halts C [] (.ok x) where
  last := .nil
  raised := by simp
  gives := by simp

theorem append {x : α} {result : Except Failure β} (hx : Halts C xs (.ok x))
    (hy : Halts C ys result) : Halts C (xs ++ ys) result where
  last := by
    have hall := hx.gives.mp ⟨x, rfl⟩
    exact List.pairwise_append.mpr ⟨hx.last, hy.last, fun x hmem _ _ => hall x hmem⟩
  raised := by
    refine List.forall_mem_append.mpr ⟨fun x hmem e he => ?_, hy.raised⟩
    cases hx.raised x hmem e he
  gives := by
    rw [hy.gives, List.forall_mem_append]
    exact (and_iff_right (hx.gives.mp ⟨x, rfl⟩)).symm

/-- Whoever has failed goes on to fail. -/
theorem error {e : Failure} (h : Halts C xs (.error e : Except Failure α)) :
    Halts C xs (.error e : Except Failure β) where
  last := h.last
  raised x hx e' he := congrArg Except.error (Except.error.inj (h.raised x hx e' he))
  gives := by simpa using h.gives

end Halts

/-- A session needs all its exchanges to be of one kind. -/
def Needs (C : Exchange → Prop) (s : Session α) : Prop := s.Meets (Halts C)

namespace Needs

theorem pure {x : α} : (Pure.pure x : Session α).Needs C := .nil

theorem bind (hs : s.Needs C) (hf : ∀ x, (f x).Needs C) : (s >>= f).Needs C := by
  refine meets_bind.mpr (hs.mono fun xs result hx => ?_)
  cases result with
  | error e => exact hx.error
  | ok x => exact (hf x).mono fun ys result hy => hx.append hy

/-- A reply is of the kind just if it can be read. -/
theorem read {read : r.Answer → Except Fault α}
    (hC : ∀ reply, C ⟨⟨n, r⟩, reply⟩ ↔ ∃ x, readReply read reply = .ok x)
    (hf : ∀ x, (f x).Needs C) :
    (Session.ask n r >>= fun answer => ofFault (read answer) >>= f).Needs C := by
  have hhalts (reply : Call.Reply ⟨n, r⟩) :
      Halts C [⟨⟨n, r⟩, reply⟩] (readReply read reply) := by
    refine ⟨List.pairwise_singleton _ _, ?_, by simp [hC]⟩
    simp only [List.mem_singleton, forall_eq]
    rintro e rfl
    rfl
  refine meets_read (fun answer x hx => (hf x).mono fun ys result hy => ?_) fun reply e he => ?_
  · have hreply : readReply read (.ok answer : Call.Reply ⟨n, r⟩) = .ok x := by
      rw [readReply, hx]
      rfl
    exact (hreply ▸ hhalts (.ok answer)).append hy
  · exact (he ▸ hhalts reply).error

theorem mapM {l : List α} (hf : ∀ x, (f x).Needs C) : (l.mapM f).Needs C := by
  induction l with
  | nil => exact Needs.pure
  | cons x l ih =>
    rw [List.mapM_cons]
    exact (hf x).bind fun y => ih.bind fun ys => Needs.pure

end Needs

end Polystore.Session
