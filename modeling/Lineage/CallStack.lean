import Lineage.Failure

/-!
# CallStack — which function an error is blamed on

A call of the library comes from a user function, which was called by another, and so on outwards. Inside the
library more functions are called before the place of an error is looked up; their names stand in front.
A place is then the number of steps outwards: step zero is the function that asks.
-/

set_option autoImplicit false

namespace Lineage

/-- The user functions that lead to a call of the library, the innermost first. -/
structure CallStack where
  functions : List String
deriving Repr

namespace CallStack

/-- How many functions lie outside of the outermost user function. -/
def outsideDepth : Nat := 10

/-- The frames that lead to a call of the library: the user's, and those outside. -/
def callers (stack : CallStack) : List Frame := stack.functions.map Frame.user ++ List.replicate outsideDepth .outside

/-- The function that looks places up. -/
def locator : Frame := .library "caller_location" "offspring.domain.assertions"

/-- The frame `depth` steps outwards from the innermost of `inner`, behind which the callers stand, if there are as many.
A negative place is the function that looks places up itself. -/
def locate (callers inner : List Frame) (depth : Int) : Option Frame := (locator :: inner ++ callers)[(depth + 1).toNat]?

/-- The module that a frame belongs to. -/
def moduleOf : Frame → String
  | .user f => "mod_" ++ f
  | .library _ m => m
  | .outside => "__main__"

/-- As many steps outwards as there are functions of the library lead to the first caller, and every further step to the
next. -/
theorem locate_add (callers inner : List Frame) (k : Nat) : locate callers inner (inner.length + k) = callers[k]? := by
  have hn : ((inner.length : Int) + k + 1).toNat = inner.length + k + 1 := by omega
  rw [locate, hn, List.cons_append, List.getElem?_cons_succ, List.getElem?_append_right (by omega), Nat.add_sub_cancel_left]

/-- The caller that is found `k` steps outwards from the function that was called, which is the last one of the library. -/
theorem locate_caller {callers inner : List Frame} {depth : Int} {k : Nat} (hk : 0 < k)
    (h : depth + 1 = inner.length + k) : locate callers inner depth = callers[k - 1]? := by
  rw [← locate_add callers inner (k - 1)]
  congr 1
  omega

end CallStack

end Lineage
