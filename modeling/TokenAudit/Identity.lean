/-! # The program

How the program names itself. -/

namespace TokenAudit.Identity

/-- The name of the program. -/
def name : String := "TokenCompliance"

/-- The name under which its versions are counted. -/
def package : String := "token_compliance"

/-- The name by which it is called on the command line. -/
def command : String := package ++ "_cli"

/-- Its version. -/
def version : String := "0.1.0"

/-- How it introduces itself to endpoints. -/
def userAgent : String := name ++ "/" ++ version

/-- The mark of the rules by which code and holders are judged; it is kept with every analysis. -/
def engine : String := "0.1-beta"

end TokenAudit.Identity
