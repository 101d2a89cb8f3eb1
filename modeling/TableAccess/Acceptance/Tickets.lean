import TableAccess.Acceptance.Check
import TableAccess.Repository.Batch

/-!
The test of tickets: insertion of many equal rows at once.
-/

set_option autoImplicit false
set_option relaxedAutoImplicit false

namespace TableAccess.Acceptance

abbrev ticketShape : Shape :=
  ⟨"Ticket",
    [sparse "id" (.optional (.scalar .int64)), sparse "event" (.scalar .varchar),
      sparse "price" (.scalar .int64), ⟨"printed", "printed", .scalar .boolean, .ignored⟩]⟩

abbrev Ticket := Record ticketShape

namespace Ticket

def event (t : Ticket) : String := t.members.2.1

def price (t : Ticket) : Int64 := t.members.2.2.1

def printed (t : Ticket) : Bool := t.members.2.2.2.1

def template : Ticket := ⟨(none, "Concert", 40, true, ())⟩

end Ticket

/-- The statements that make the table of tickets and its insertion function. -/
def ticketStatements : List String :=
  ["DROP TABLE IF EXISTS public.tickets",
    "CREATE TABLE public.tickets (\n" ++
    "                id BIGSERIAL PRIMARY KEY,\n" ++
    "                event TEXT NOT NULL,\n" ++
    "                price BIGINT NOT NULL\n" ++
    "            )",
    "CREATE OR REPLACE FUNCTION public.insert_multiple_tickets(\n" ++
    "                p_event TEXT,\n" ++
    "                p_price BIGINT,\n" ++
    "                p_count BIGINT\n" ++
    "            ) RETURNS BIGINT[] AS $$\n" ++
    "                WITH inserted AS (\n" ++
    "                    INSERT INTO public.tickets (event, price)\n" ++
    "                    SELECT p_event, p_price FROM generate_series(1, p_count)\n" ++
    "                    RETURNING id\n" ++
    "                )\n" ++
    "                SELECT array_agg(id ORDER BY id) FROM inserted\n" ++
    "            $$ LANGUAGE sql"]

variable {σ κ : Type}

def testTickets (k : Coordinator σ κ) : Action (World σ) Unit := do
  setup k ticketStatements
  let tickets : BatchRepository Ticket :=
    { table := k.table "tickets" none, sequence := ["event", "price"] }
  let ids ← expect "Failed to create many tickets"
    (k.ownTransaction (onTable k (tickets.createMany · (some Ticket.template.fields) 3 none)))
  verify (ids.length == 3)
  verify (increasing (fun m n => decide (m < n)) ids)
  holding k do
    let stored ← expect "Failed to find the created tickets"
      (onTable k (tickets.find ·
        { filter := some (Filter.empty.anyOf "id" (ids.map Value.integer)) }))
    verify (stored.length == 3)
    verify (stored.all fun t => t.event == "Concert" && t.price == 40)
    verify (stored.all fun t => !t.printed)
    let f ← expectFailure "A missing item must be rejected"
      (onTable k (tickets.createMany · none 2 none))
    verify (isRefusal f)
    releaseClean k

end TableAccess.Acceptance
