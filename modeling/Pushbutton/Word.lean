/-! Whole numbers that fit into a signed machine word. -/

set_option autoImplicit false

namespace Pushbutton

def isWord (n : Int) : Bool :=
  decide (-0x8000000000000000 ≤ n) && decide (n < 0x8000000000000000)

def isHalfWord (n : Int) : Bool := decide (-0x80000000 ≤ n) && decide (n < 0x80000000)

end Pushbutton
