import ProcessorSockets.Error.Kind

namespace ProcessorSockets.Errno

def table : List (ErrorKind × String) := [
  (.uncategorized, "Success"),
  (.permissionDenied, "Operation not permitted"),
  (.notFound, "No such file or directory"),
  (.uncategorized, "No such process"),
  (.interrupted, "Interrupted system call"),
  (.inputOutputError, "Input/output error"),
  (.uncategorized, "No such device or address"),
  (.argumentListTooLong, "Argument list too long"),
  (.uncategorized, "Exec format error"),
  (.uncategorized, "Bad file descriptor"),
  (.uncategorized, "No child processes"),
  (.wouldBlock, "Resource temporarily unavailable"),
  (.outOfMemory, "Cannot allocate memory"),
  (.permissionDenied, "Permission denied"),
  (.uncategorized, "Bad address"),
  (.uncategorized, "Block device required"),
  (.resourceBusy, "Device or resource busy"),
  (.alreadyExists, "File exists"),
  (.crossesDevices, "Invalid cross-device link"),
  (.uncategorized, "No such device"),
  (.notADirectory, "Not a directory"),
  (.isADirectory, "Is a directory"),
  (.invalidInput, "Invalid argument"),
  (.tooManyOpenFiles, "Too many open files in system"),
  (.tooManyOpenFiles, "Too many open files"),
  (.uncategorized, "Inappropriate ioctl for device"),
  (.executableFileBusy, "Text file busy"),
  (.fileTooLarge, "File too large"),
  (.storageFull, "No space left on device"),
  (.notSeekable, "Illegal seek"),
  (.readOnlyFilesystem, "Read-only file system"),
  (.tooManyLinks, "Too many links"),
  (.brokenPipe, "Broken pipe"),
  (.uncategorized, "Numerical argument out of domain"),
  (.uncategorized, "Numerical result out of range"),
  (.deadlock, "Resource deadlock avoided"),
  (.invalidFilename, "File name too long"),
  (.uncategorized, "No locks available"),
  (.unsupported, "Function not implemented"),
  (.directoryNotEmpty, "Directory not empty"),
  (.filesystemLoop, "Too many levels of symbolic links"),
  (.uncategorized, "Unknown error 41"),
  (.uncategorized, "No message of desired type"),
  (.uncategorized, "Identifier removed"),
  (.uncategorized, "Channel number out of range"),
  (.uncategorized, "Level 2 not synchronized"),
  (.uncategorized, "Level 3 halted"),
  (.uncategorized, "Level 3 reset"),
  (.uncategorized, "Link number out of range"),
  (.uncategorized, "Protocol driver not attached"),
  (.uncategorized, "No CSI structure available"),
  (.uncategorized, "Level 2 halted"),
  (.uncategorized, "Invalid exchange"),
  (.uncategorized, "Invalid request descriptor"),
  (.uncategorized, "Exchange full"),
  (.uncategorized, "No anode"),
  (.uncategorized, "Invalid request code"),
  (.uncategorized, "Invalid slot"),
  (.uncategorized, "Unknown error 58"),
  (.uncategorized, "Bad font file format"),
  (.uncategorized, "Device not a stream"),
  (.uncategorized, "No data available"),
  (.uncategorized, "Timer expired"),
  (.uncategorized, "Out of streams resources"),
  (.uncategorized, "Machine is not on the network"),
  (.uncategorized, "Package not installed"),
  (.uncategorized, "Object is remote"),
  (.uncategorized, "Link has been severed"),
  (.uncategorized, "Advertise error"),
  (.uncategorized, "Srmount error"),
  (.uncategorized, "Communication error on send"),
  (.uncategorized, "Protocol error"),
  (.uncategorized, "Multihop attempted"),
  (.uncategorized, "RFS specific error"),
  (.uncategorized, "Bad message"),
  (.uncategorized, "Value too large for defined data type"),
  (.uncategorized, "Name not unique on network"),
  (.uncategorized, "File descriptor in bad state"),
  (.uncategorized, "Remote address changed"),
  (.uncategorized, "Can not access a needed shared library"),
  (.uncategorized, "Accessing a corrupted shared library"),
  (.uncategorized, ".lib section in a.out corrupted"),
  (.uncategorized, "Attempting to link in too many shared libraries"),
  (.uncategorized, "Cannot exec a shared library directly"),
  (.uncategorized, "Invalid or incomplete multibyte or wide character"),
  (.uncategorized, "Interrupted system call should be restarted"),
  (.uncategorized, "Streams pipe error"),
  (.uncategorized, "Too many users"),
  (.uncategorized, "Socket operation on non-socket"),
  (.uncategorized, "Destination address required"),
  (.uncategorized, "Message too long"),
  (.uncategorized, "Protocol wrong type for socket"),
  (.uncategorized, "Protocol not available"),
  (.uncategorized, "Protocol not supported"),
  (.uncategorized, "Socket type not supported"),
  (.unsupported, "Operation not supported"),
  (.uncategorized, "Protocol family not supported"),
  (.uncategorized, "Address family not supported by protocol"),
  (.addrInUse, "Address already in use"),
  (.addrNotAvailable, "Cannot assign requested address"),
  (.networkDown, "Network is down"),
  (.networkUnreachable, "Network is unreachable"),
  (.uncategorized, "Network dropped connection on reset"),
  (.connectionAborted, "Software caused connection abort"),
  (.connectionReset, "Connection reset by peer"),
  (.uncategorized, "No buffer space available"),
  (.uncategorized, "Transport endpoint is already connected"),
  (.notConnected, "Transport endpoint is not connected"),
  (.uncategorized, "Cannot send after transport endpoint shutdown"),
  (.uncategorized, "Too many references: cannot splice"),
  (.timedOut, "Connection timed out"),
  (.connectionRefused, "Connection refused"),
  (.uncategorized, "Host is down"),
  (.hostUnreachable, "No route to host"),
  (.uncategorized, "Operation already in progress"),
  (.inProgress, "Operation now in progress"),
  (.staleNetworkFileHandle, "Stale file handle"),
  (.uncategorized, "Structure needs cleaning"),
  (.uncategorized, "Not a XENIX named type file"),
  (.uncategorized, "No XENIX semaphores available"),
  (.uncategorized, "Is a named type file"),
  (.uncategorized, "Remote I/O error"),
  (.quotaExceeded, "Disk quota exceeded"),
  (.uncategorized, "No medium found"),
  (.uncategorized, "Wrong medium type"),
  (.uncategorized, "Operation canceled"),
  (.uncategorized, "Required key not available"),
  (.uncategorized, "Key has expired"),
  (.uncategorized, "Key has been revoked"),
  (.uncategorized, "Key was rejected by service"),
  (.uncategorized, "Owner died"),
  (.uncategorized, "State not recoverable"),
  (.uncategorized, "Operation not possible due to RF-kill"),
  (.uncategorized, "Memory page has hardware error")]

def row? (code : Int) : Option (ErrorKind × String) :=
  if 0 ≤ code then table[code.toNat]? else none

def kind (code : Int) : ErrorKind := ((row? code).map (·.1)).getD .uncategorized

def text (code : Int) : String := ((row? code).map (·.2)).getD s!"Unknown error {code}"

abbrev notPermitted : Int := 1

abbrev noEntry : Int := 2

abbrev interrupted : Int := 4

abbrev badDescriptor : Int := 9

abbrev again : Int := 11

abbrev pathExists : Int := 17

abbrev notDirectory : Int := 20

abbrev isDirectory : Int := 21

abbrev invalid : Int := 22

abbrev brokenPipe : Int := 32

abbrev outOfDomain : Int := 33

abbrev wrongType : Int := 91

abbrev protocolUnsupported : Int := 93

abbrev typeUnsupported : Int := 94

abbrev operationUnsupported : Int := 95

abbrev familyUnsupported : Int := 97

abbrev addressInUse : Int := 98

abbrev connectionReset : Int := 104

abbrev alreadyConnected : Int := 106

abbrev notConnected : Int := 107

abbrev connectionRefused : Int := 111

end ProcessorSockets.Errno
