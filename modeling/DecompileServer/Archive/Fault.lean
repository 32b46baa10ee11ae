import DecompileServer.Disk.Fault

/-!
# Faults of archives

The reasons for which an archive cannot be listed or extracted, with their wording: its bytes are
not an archive, it uses something that is not supported, the data of an entry are damaged, or the
disk refuses a file.
-/
namespace DecompileServer.Archive

/-- Why an archive is not one. -/
inductive Malformation where
  /-- There are fewer bytes than the end record has. -/
  | tooShort
  /-- No end record is found. -/
  | noEndRecord
  /-- The directory does not fit before the end record. -/
  | directoryOutOfPlace
  /-- An entry of the directory has no signature. -/
  | directoryEntry
  /-- The header before the data of an entry has no signature. -/
  | localHeader
  /-- The name of an entry leads out of the directory that it is extracted to. -/
  | escapingName
  /-- The offset of an entry is too large. -/
  | offsetTooLarge
  /-- The directory begins past what can be sought. -/
  | directoryUnreachable
  /-- No room is left for a large end record. -/
  | noRoomForLargeEnd
  /-- No large end record is found. -/
  | noLargeEndRecord
  /-- The mark of an encrypted entry is not of the known vendor. -/
  | encryptionVendor
  /-- The mark of an encrypted entry has an unknown version. -/
  | encryptionVersion
  /-- The mark of an encrypted entry has an unknown strength. -/
  | encryptionStrength
  /-- An encrypted entry is not marked with how it is encrypted. -/
  | encryptionUnmarked
  deriving DecidableEq, Repr

/-- The wording of a malformation. -/
def Malformation.message : Malformation → String
  | .tooShort => "Invalid zip header"
  | .noEndRecord => "Could not find central directory end"
  | .directoryOutOfPlace => "Invalid central directory size or offset"
  | .directoryEntry => "Invalid Central Directory header"
  | .localHeader => "Invalid local file header"
  | .escapingName => "Invalid file path"
  | .offsetTooLarge => "Archive header is too large"
  | .directoryUnreachable => "Could not seek to start of central directory"
  | .noRoomForLargeEnd => "File cannot contain ZIP64 central directory end"
  | .noLargeEndRecord => "Could not find ZIP64 central directory end"
  | .encryptionVendor => "Invalid AES vendor"
  | .encryptionVersion => "Invalid AES vendor version"
  | .encryptionStrength => "Invalid AES encryption strength"
  | .encryptionUnmarked => "AES encryption without AES extra data field"

/-- What an archive uses that is not supported. -/
inductive Unsupported where
  /-- The archive is spread over several disks. -/
  | severalDisks
  /-- An entry is compressed by another method. -/
  | compression
  /-- An entry is encrypted. -/
  | encryption
  /-- The mark of an encrypted entry has another length. -/
  | encryptionMark
  deriving DecidableEq, Repr

/-- The wording of what is not supported. -/
def Unsupported.message : Unsupported → String
  | .severalDisks => "Support for multi-disk files is not implemented"
  | .compression => "Compression method not supported"
  | .encryption => "Password required to decrypt file"
  | .encryptionMark => "AES extra data field has an unsupported length"

/-- Why an archive cannot be listed or extracted. -/
inductive Fault where
  /-- The bytes are not an archive. -/
  | malformed (reason : Malformation)
  /-- The archive uses something that is not supported. -/
  | unsupported (reason : Unsupported)
  /-- A structure of the archive ends early. -/
  | endsEarly
  /-- An offset is beyond what can be sought. -/
  | unreachable
  /-- The data of an entry have another checksum. -/
  | checksum
  /-- The compressed data of an entry are damaged. -/
  | corruptData
  /-- The compressed data of an entry end early. -/
  | incompleteData
  /-- An entry is marked with how it is encrypted but does not say that it is. No rule tells how to
  read it, and whoever tries breaks down. -/
  | contradictory
  /-- The disk refuses an operation. -/
  | disk (fault : Disk.Fault)
  deriving DecidableEq, Repr

/-- The wording of a fault. -/
def Fault.message : Fault → String
  | .malformed reason => "invalid Zip archive: " ++ reason.message
  | .unsupported reason => "unsupported Zip archive: " ++ reason.message
  | .endsEarly => "failed to fill whole buffer"
  | .unreachable => "Invalid argument (os error 22)"
  | .checksum => "Invalid checksum"
  | .corruptData => "corrupt deflate stream"
  | .incompleteData => "incomplete deflate stream"
  | .contradictory => "invalid password for file in archive"
  | .disk fault => fault.message

end DecompileServer.Archive
