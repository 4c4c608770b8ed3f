/-!
# What can go wrong with a file

The causes for which an operation on files can be refused, and the words each is reported in.
-/

namespace SheetCabinet

inductive FileError
  /-- Nothing is there, or a directory on the way to it is missing. -/
  | notFound
  /-- The device or directory is in use in a way that rules the operation out. -/
  | busy
  | alreadyExists
  /-- A name was to be moved to another device. -/
  | crossDevice
  | notADirectory
  | isADirectory
  | invalidArgument
  /-- A single name, or the whole path, is longer than the limits allow. -/
  | nameTooLong
  | notEmpty
  /-- More symbolic links were met on the way than the limit allows. -/
  | tooManyLinks
  /-- A path holds the character NUL, which no file name can. -/
  | nulInPath
  /-- The contents were to be read as text and are not valid UTF-8. -/
  | notUtf8
  /-- A write was stopped before its end. -/
  | diskFull
  | syncFailed
  | truncateFailed
  /-- A cause known only by the words it was reported in. -/
  | other (text : String)
deriving DecidableEq, Repr

namespace FileError

def message : FileError → String
  | notFound => "No such file or directory (os error 2)"
  | busy => "Device or resource busy (os error 16)"
  | alreadyExists => "File exists (os error 17)"
  | crossDevice => "Invalid cross-device link (os error 18)"
  | notADirectory => "Not a directory (os error 20)"
  | isADirectory => "Is a directory (os error 21)"
  | invalidArgument => "Invalid argument (os error 22)"
  | nameTooLong => "File name too long (os error 36)"
  | notEmpty => "Directory not empty (os error 39)"
  | tooManyLinks => "Too many levels of symbolic links (os error 40)"
  | nulInPath => "file name contained an unexpected NUL byte"
  | notUtf8 => "stream did not contain valid UTF-8"
  | diskFull => "disk full"
  | syncFailed => "sync failed"
  | truncateFailed => "truncate failed"
  | other text => text

end FileError

end SheetCabinet
