import TableAccess.Acceptance.Accounts
import TableAccess.Acceptance.Books
import TableAccess.Acceptance.Cities
import TableAccess.Acceptance.Tickets

/-!
The acceptance suite of a server: all tests in order, and the closing of the server.
-/

set_option autoImplicit false
set_option relaxedAutoImplicit false

namespace TableAccess.Acceptance

variable {σ κ : Type}

/-- All tests, up to the first check that does not hold. -/
def suite (b : Backend σ κ) : Action (World σ) Unit := do
  let k : Coordinator σ κ := { backend := b }
  testBooks k
  testCities k
  testTickets k
  testRollback k
  testNesting k
  expect "Could not drain the pool" (.ofFallible k.drain)

end TableAccess.Acceptance
