import Mathlib.Data.List.Basic

/-!
# Accounts of a cell that keeps the newest value

A cell holds the last value posted since it was last taken. `Account` splits
everything posted into takings, each a taken value after the values it
superseded, and the values since the last taking. Nothing is taken twice and
nothing is lost except to a newer value.
-/

namespace X360Gadget.Std

universe u

variable {α : Type u}

/-- A taken value and, before it, the values it superseded. -/
structure Taking (α : Type u) where
  superseded : List α
  taken : α

/-- The posts a taking settles, oldest first. -/
def Taking.posts (taking : Taking α) : List α := taking.superseded ++ [taking.taken]

/-- The posts that takings settle. -/
def settled (takings : List (Taking α)) : List α := takings.flatMap Taking.posts

@[simp] theorem settled_nil : settled ([] : List (Taking α)) = [] := rfl

@[simp] theorem settled_concat (takings : List (Taking α)) (taking : Taking α) :
    settled (takings ++ [taking]) = settled takings ++ taking.posts := by
  simp [settled]

/-- Every post is settled by a taking or waits behind the last of them. -/
structure Account (posted taken pending : List α) (takings : List (Taking α)) : Prop where
  posts : posted = settled takings ++ pending
  takes : taken = takings.map Taking.taken

namespace Account

variable {posted taken pending : List α} {takings : List (Taking α)}

/-- Nothing has been taken yet. -/
theorem start (posted : List α) : Account posted [] posted [] := ⟨rfl, rfl⟩

/-- Posting adds to what waits. -/
theorem post (account : Account posted taken pending takings) (more : List α) :
    Account (posted ++ more) taken (pending ++ more) takings := by
  refine ⟨?_, account.takes⟩
  rw [account.posts, List.append_assoc]

/-- Taking the newest value settles everything that waits. -/
theorem take (account : Account posted taken pending takings) {value : α}
    (newest : pending.getLast? = some value) :
    Account posted (taken ++ [value]) [] (takings ++ [⟨pending.dropLast, value⟩]) := by
  have whole : pending.dropLast ++ [value] = pending :=
    List.dropLast_append_getLast? value newest
  refine ⟨?_, ?_⟩
  · rw [settled_concat, Taking.posts, whole, List.append_nil, account.posts]
  · rw [account.takes, List.map_append]
    rfl

/-- With nothing waiting every post is settled. -/
theorem settled_eq (account : Account posted taken [] takings) : settled takings = posted := by
  rw [account.posts, List.append_nil]

end Account

end X360Gadget.Std
