/-!
# Names of databases
-/

namespace Tabula

/-- the name of the database that is used unless another is chosen -/
def defaultDatabase : String := "default"

end Tabula
