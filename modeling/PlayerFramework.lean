import PlayerFramework.DownloadedCache.CacheReader
import PlayerFramework.DownloadedCache.SizeUpdates
import PlayerFramework.Downloader.CancelFinal
import PlayerFramework.Downloader.ConcurrencyBound
import PlayerFramework.Downloader.FilePaths
import PlayerFramework.Downloader.KeptMessages
import PlayerFramework.Downloader.ProgressTotals
import PlayerFramework.Downloader.TransferReports
import PlayerFramework.Downloader.WorkerWakeups
import PlayerFramework.HiPlayer.CompletionExact
import PlayerFramework.HiPlayer.DrmInfo
import PlayerFramework.HiPlayer.PlayRange
import PlayerFramework.HiPlayer.SeekAgent
import PlayerFramework.HiPlayer.SeekAnswered
import PlayerFramework.HiPlayer.SeekClosestDelegator
import PlayerFramework.HiPlayer.TransCoderAudio
import PlayerFramework.HiPlayer.TransCoderProgress
import PlayerFramework.Loader.CacheCalls
import PlayerFramework.Loader.CachedRead
import PlayerFramework.Loader.EvictedSize
import PlayerFramework.Loader.HttpHeaderParser
import PlayerFramework.Loader.IndexBounds
import PlayerFramework.LowPower.DataPump
import PlayerFramework.LowPower.ServedRequests
import PlayerFramework.Monitor.AlarmedObjects
import PlayerFramework.Monitor.MonitorClient
import PlayerFramework.Player.Attended
import PlayerFramework.Player.LastSeek
import PlayerFramework.Player.ReplacedTasks
import PlayerFramework.PlayerMem.Retry
import PlayerFramework.Recorder.SelfStop
import PlayerFramework.Recorder.ServerConfig
import PlayerFramework.ScreenCapture.AnnouncedSize
import PlayerFramework.ScreenCapture.AppSelection
import PlayerFramework.ScreenCapture.DataTypeLimit
import PlayerFramework.ScreenCapture.Missions
import PlayerFramework.ScreenCapture.MixAudio
import PlayerFramework.ScreenCapture.SaSessions
import PlayerFramework.ScreenCapture.SessionIds
import PlayerFramework.ScreenCapture.VideoStart
import PlayerFramework.ScreenCapture.VirtualScreen
import PlayerFramework.ServerManager.Critical
import PlayerFramework.SoundPool.HeldStreams
import PlayerFramework.SoundPool.IdleCache
import PlayerFramework.SoundPool.LoopPlayback
import PlayerFramework.SoundPool.PlayingRuns
import PlayerFramework.SoundPool.QueueOrder
import PlayerFramework.SoundPool.SoundPublished
import PlayerFramework.SoundPool.Uniqueness
import PlayerFramework.SoundPool.WaitingOffered
import PlayerFramework.TaskQueue.Processors
import PlayerFramework.TaskQueue.Rearm
import PlayerFramework.Thumbnail.FetchedFrame
import PlayerFramework.Thumbnail.FrameCopy
import PlayerFramework.Thumbnail.OutputBuffers
import PlayerFramework.Utils.FdOwnership
import PlayerFramework.Utils.WatchDog
