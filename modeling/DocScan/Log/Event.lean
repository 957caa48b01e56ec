import DocScan.Log.Level

/-!
# Events

What the library has to say while it works: a message, how grave it is, and the place it comes from.
Functions that report return their events as a list beside their result, oldest first.
-/

namespace DocScan.Log

structure Place where
  logger : Text
  module : Text
  function : Text
deriving DecidableEq, Repr

structure Event where
  level : Level
  place : Place
  message : Text
deriving DecidableEq, Repr

def Place.debug (place : Place) (message : Text) : Event := { level := .debug, place, message }

def Place.error (place : Place) (message : Text) : Event := { level := .error, place, message }

end DocScan.Log
