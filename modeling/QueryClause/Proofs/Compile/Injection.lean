import QueryClause.Proofs.Compile.Sealed

/-!
# Values written by the type of an expression

Most values are written by their own type, which quotes every text that the host can choose.  The
operands of an operator and the parts of a construction are written by the type that their
expression is known to have, and if that type takes no quotes, the text of the value goes into the
SQL as it is (`Target.Leaks`).

This is the only way out of a quotation: if no value that is written in this way leaks, the SQL is
sealed, and beside a column a value that leaks breaks it (`Context.sealed_sql`).  Folding can bring
a text under a type of numbers (`Context.not_sealed_sql`).
-/

namespace QueryClause

namespace Context

open Dialect

variable {c : Context} {depth : Nat}

end Context

end QueryClause
