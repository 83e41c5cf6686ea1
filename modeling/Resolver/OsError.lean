/-!
# Operating-system errors

Why a request to the operating system fails: the numbers with which the system refuses it, and
their wording.
-/

namespace Resolver

/-- Why a request to the operating system fails. -/
inductive OsError
  /-- The system refuses it, with a number. -/
  | refused (code : Nat)
  /-- It cannot be made: a file name ends where it holds a NUL character. -/
  | nulInName
  deriving DecidableEq, Repr

namespace OsError

/-- There is no such file. -/
def noEntry : OsError := .refused 2

/-- Something other than a directory stands where a path goes on. -/
def notDirectory : OsError := .refused 20

/-- A directory was read as a file. -/
def isDirectory : OsError := .refused 21

/-- A file name or a whole path is too long. -/
def nameTooLong : OsError := .refused 36

/-- The system offers no such service. -/
def unsupported : OsError := .refused 38

/-- The local address belongs to no interface. -/
def addressNotAvailable : OsError := .refused 99

/-- There is no way to the address. -/
def networkUnreachable : OsError := .refused 101

/-- The other side refused. -/
def connectionRefused : OsError := .refused 111

/-- The other side broke the connection off. -/
def connectionReset : OsError := .refused 104

/-- The wording for the numbers that files and sockets give. -/
def description : Nat → String
  | 1 => "Operation not permitted"
  | 2 => "No such file or directory"
  | 4 => "Interrupted system call"
  | 5 => "Input/output error"
  | 6 => "No such device or address"
  | 9 => "Bad file descriptor"
  | 11 => "Resource temporarily unavailable"
  | 12 => "Cannot allocate memory"
  | 13 => "Permission denied"
  | 16 => "Device or resource busy"
  | 17 => "File exists"
  | 18 => "Invalid cross-device link"
  | 20 => "Not a directory"
  | 21 => "Is a directory"
  | 22 => "Invalid argument"
  | 23 => "Too many open files in system"
  | 24 => "Too many open files"
  | 27 => "File too large"
  | 28 => "No space left on device"
  | 30 => "Read-only file system"
  | 32 => "Broken pipe"
  | 36 => "File name too long"
  | 38 => "Function not implemented"
  | 39 => "Directory not empty"
  | 40 => "Too many levels of symbolic links"
  | 97 => "Address family not supported by protocol"
  | 98 => "Address already in use"
  | 99 => "Cannot assign requested address"
  | 100 => "Network is down"
  | 101 => "Network is unreachable"
  | 104 => "Connection reset by peer"
  | 105 => "No buffer space available"
  | 110 => "Connection timed out"
  | 111 => "Connection refused"
  | 113 => "No route to host"
  | n => s!"Unknown error {n}"

/-- The full wording of a failure. -/
def message : OsError → String
  | refused code => s!"{description code} (os error {code})"
  | nulInName => "file name contained an unexpected NUL byte"

end OsError

end Resolver
