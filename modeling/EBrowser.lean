import EBrowser.Events
import EBrowser.InputHandler
import EBrowser.Proxy
import EBrowser.Delay
import EBrowser.Handlers
import EBrowser.Dispatch
import EBrowser.Animate
import EBrowser.System
import EBrowser.Idle
import EBrowser.Throttle
import EBrowser.Noninterference
import EBrowser.Streams
import EBrowser.Touch
import EBrowser.Reentry
import EBrowser.Protocol
import EBrowser.Elasticity
