import Mathlib.Data.List.Induction

/-!
# Messages that are delivered more than once

`firsts` keeps of the messages with one id the first that was delivered. A consumer that skips
messages whose id it has had before ends in the same state on all messages as on those
(`foldl_firsts`).
-/

namespace Redelivery

variable {Message Id State : Type} [DecidableEq Id]

/-- The messages without those whose id was there before. -/
def firsts (id : Message → Id) (messages : List Message) : List Message :=
  messages.foldl
    (fun kept message => if id message ∈ kept.map id then kept else kept ++ [message]) []

theorem firsts_snoc (id : Message → Id) (messages : List Message) (message : Message) :
    firsts id (messages ++ [message]) =
      if id message ∈ (firsts id messages).map id then firsts id messages
      else firsts id messages ++ [message] := by
  unfold firsts
  rw [List.foldl_append]
  rfl

/-- The first message with an id is kept. -/
theorem find?_firsts (id : Message → Id) (messages : List Message) (i : Id) :
    (firsts id messages).find? (fun message => id message = i) =
      messages.find? fun message => id message = i := by
  induction messages using List.reverseRecOn with
  | nil => rfl
  | append_singleton messages message ih =>
    rw [firsts_snoc, List.find?_append, ← ih]
    split
    · rename_i hmem
      by_cases hi : id message = i
      · obtain ⟨first, hfirst, hid⟩ := List.mem_map.mp hmem
        have hsome : ((firsts id messages).find? fun message => id message = i).isSome = true :=
          List.find?_isSome.mpr ⟨first, hfirst, decide_eq_true (hid.trans hi)⟩
        obtain ⟨found, hfound⟩ := Option.isSome_iff_exists.mp hsome
        rw [hfound, Option.some_or]
      · rw [List.find?_cons_of_neg (by simpa using hi), List.find?_nil, Option.or_none]
    · rw [List.find?_append]

/-- A consumer that skips messages with an id that came before does not depend on redeliveries. -/
theorem foldl_firsts {id : Message → Id} {step : State → Message → State} {start : State}
    (hskip : ∀ (messages : List Message) message, id message ∈ messages.map id →
      step (messages.foldl step start) message = messages.foldl step start)
    (messages : List Message) :
    messages.foldl step start = (firsts id messages).foldl step start := by
  induction messages using List.reverseRecOn with
  | nil => rfl
  | append_singleton messages message ih =>
    rw [List.foldl_append, ih, firsts_snoc]
    by_cases hmem : id message ∈ (firsts id messages).map id
    · rw [if_pos hmem]
      exact hskip _ message hmem
    · rw [if_neg hmem, List.foldl_append]

end Redelivery
