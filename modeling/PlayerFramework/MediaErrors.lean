/-!
The error codes of `media_errors.h` that the modelled functions return.
-/

namespace PlayerFramework

inductive MSErr where
  | ok
  | unknown
  | noMemory
  | invalidVal
  | invalidOperation
  | unsupport
  | stopFailed
  | unsupportAudSampleRate
  | unsupportAudChannelNum
  | invalidAudBitrate
  | invalidVidFrameWidth
  | invalidVidFrameHeight
  | invalidVidCodecFormat
  | invalidVidBitrate
  | invalidFd
  | unsupportInCall
  | unknownCreateVirtualScreen
  | unknownMakeMirror
  | unknownRecorderSetAudio
  | unknownRecorderInit
  | unknownRecorderSetFile
  | unknownRecorderPrepare
  | unknownRecorderGetSurface
deriving DecidableEq

end PlayerFramework
