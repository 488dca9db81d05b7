import Pineone.Runs
import Pineone.StableSort
import Pineone.ServerDeletions
import Pineone.DownloadTab
import Pineone.StaleDeletes
import Pineone.ActivityTable
import Pineone.DeleteMode
import Pineone.DeleteBar
import Pineone.Dictionaries
import Pineone.StringsKeys
import Pineone.StringsParser
import Pineone.Localization
import Pineone.DeepLink
import Pineone.Clocked
import Pineone.EventList
import Pineone.AlertQueue
import Pineone.LoadingOverlay
import Pineone.QuizAnswers
import Pineone.InlineVideo
import Pineone.VideoObservers
import Pineone.ToastQueue
import Pineone.RangeSlider
import Pineone.FilterSlider
import Pineone.SliderDrags
import Pineone.SliderReach
import Pineone.EventOrder
import Pineone.FormatSpecifiers
import Pineone.PullToRefresh
import Pineone.SelectAllButton
import Pineone.TextChunks
import Pineone.LinkOrigin
import Pineone.SliderMotion
import Pineone.RotatePicker
import Pineone.PickerSelection
import Pineone.PickerReload
import Pineone.RecentWords
import Pineone.TabPager
import Pineone.CellReuse
import Pineone.ToastProtocol
import Pineone.LeftmostMatches
import Pineone.RegexRange
import Pineone.TabBar
import Pineone.FollowScreen
import Pineone.AlertWiring
import Pineone.RxQuizEditor
import Pineone.Countdown
import Pineone.Numerals
import Pineone.NumberTexts
import Pineone.AlertProgress
import Pineone.Throttle
import Pineone.DeviceOrientation
import Pineone.ToastShown
import Pineone.ActionSheets
import Pineone.FlowNavigation
import Pineone.HitTesting
import Pineone.PlayerControls
