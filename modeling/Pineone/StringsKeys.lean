import Mathlib.Data.List.Basic

/-!
# The keys of the localized texts

`Keys` enumerates the texts of the app under the names that the strings files
give them; `trash` stands for everything else a file contains.  A key is read
back from its raw value (`Keys.ofRawValue`), and different names never give the
same key (`Keys.ofRawValue_inj`).
-/

namespace Localization

inductive Keys
  | trash | app_name | bottom_nav_title_home | bottom_nav_title_search | bottom_nav_title_my
  | bottom_nav_title_setting | play_time | max_size | artist | expire_date | content_basic_info
  | buffering_info | buffering_info_other | buffering_button1 | buffering_button2
  | buffering_button3 | reply_hint | reply | register | reply_not_permit | report_limit
  | download | downloading | no | yes | cancel | save | pause | restart | retry | play
  | play_now | see_more | see_more_close | check_network | go_to_mydownload | leave
  | download_paused | view_detail | permission_title | permission_app_name
  | permission_app_desc | permission_phone | permission_phone_desc | permission_storage
  | permission_storage_desc | permission_camera | permission_camera_desc | permission_mic
  | permission_mic_desc | permission_location | permission_location_desc | popup_turn_off_today
  | popup_turn_off | agreement_title | agreement_desc | agreement_usage
  | agreement_private_info | agreement_info_process | agreement_marketing
  | agreement_extra_desc | agreement_warn | agreement_all | agreement_marketing_info
  | agree_cancel_notice | see_underline | next | close | ok | exit | keep | prev_version
  | next_version | agreement_and_go | close_app_confirm | theme_view_all | like | share
  | share_jpg | share_gif | share_mp4 | my_recently_viewed | my_download | my_like | my_replies
  | my_contents | my_album | delete | font_error | share_content | my_contents_selection_delete
  | my_contents_selection_delete_confirm | my_contents_camera | my_contents_3d | my_contents_
  | qlone_no_contents | qlone_tutorial_need_mat | qlone_tutorial_download_btn
  | qlone_tutorial_do_landscape | qlone_tutorial_360_scan | qlone_tutorial_360_scan_msg
  | qlone_tutorial_keep_scan | qlone_tutorial_other_scan | qlone_tutorial_after_scan
  | qlone_tutorial_after_scan_2 | qlone_make_name_desc | qlone_make_name_hint
  | qlone_exit_scanning_desc | qlone_exit_not_saved_desc | qlone_select_share_type_title
  | qlone_randering | setting_event | setting_notice | setting_faq | setting_question
  | setting_other | select_all | setting_nickname | setting_push | setting_push_desc
  | setting_continuous_play | setting_continuous_play_desc | setting_bright_theme
  | setting_contents_save | setting_app_version | setting_current_version
  | setting_opensource_licence | setting_terms_of_service | setting_private_policy
  | setting_private_policy_collection | setting_private_policy_terms | setting_update_agreement
  | setting_nick_current_nick | setting_nick_change_nick_hint
  | setting_nick_change_nick_success | setting_nick_change_nick_duplicate
  | setting_version_update | setting_select_storage | setting_update_disagree_last_version
  | setting_question_title2 | setting_question_title3 | setting_question_hint_email
  | setting_question_hint | setting_question_agreement | setting_question_send
  | setting_question_dialog | setting_question_toast | setting_question_failure
  | setting_question_title | setting_question_type_select2 | setting_question_type_select
  | setting_question_type_app_usage | setting_question_type_price_data
  | setting_question_type_contents_quality | setting_question_type_event
  | setting_question_type_others | setting_question_type_feedback | setting_event_apply
  | setting_internal_storage | setting_sd_card | setting_available_space | setting_change_space
  | contents | writer | report | report_select_reason | report_reason_1 | report_reason_2
  | report_reason_3 | report_complete | etc | report_hint_detail | player_reply
  | player_reply_please_enter | player_no_reply | player_searching_surface_toast
  | player_unsupported_device | player_save_preview | player_video_recording_end
  | player_play_done | today | yesterday | two_days_ago | three_days_ago | four_days_ago
  | five_days_ago | six_days_ago | seven_days_ago | order_date | order_size
  | update_popup_major | update_popup_miner | later | update | save_file_out_of_storage
  | move_to_setting | preview_exit_without_save | could_not_open_page | error_occurred
  | network_error | network_error_too_many | network_error_wifi | network_error_cell
  | server_error | my_recently_viewed_empty | my_download_empty | my_like_empty
  | my_reply_empty | my_contents_empty | my_contents_see_other | network_error_splash
  | roaming_status_dialog | roaming_status | usim_not_inserted | insufficient_storage
  | contents_expiration | reply_reported | deleted_contents | reply_not_entered
  | reply_overflow | reply_add_completed | reply_add_failed | reply_include_slang
  | reply_delete_completed | reply_delete_failed | download_completed | cancel_download
  | cannot_contents_3d_streaming | cannot_contents_lte_streaming | cannot_lte_warning
  | download_failed | download_retry | download_resumed | recently_viewed_contents_max_limited
  | reply_delete_warn | reply_delete | delete_contents_warn | delete_contents_completed
  | delete_contents_failed | reply_report_failed | play_failed | dialog_play_next_wating
  | dialog_play_next_wating_remaining | dialog_play_next_setting_change | dialog_cell_warning
  | dialog_streaming_warning | dialog_ar_caution1 | dialog_ar_caution2
  | register_user_completed | permission_rational_desc | setting_now | setting_later
  | third_party_user_notice | third_party_user_preview_notice_mvno
  | third_party_user_preview_notice | internal_storage_required_size_exceed | contents_turn_off
  | preview_end_alert | streaming_alert_lte_toast | streaming_alert_wifi_toast
  | contents_lte_download_toast | contents_3d_download_toast | streaming_alert_5g
  | streaming_alert_lte | download_info_5g | data_saving_mode_warn | please_recognize_image
  | please_recognize_fail | move_google_lens | start_event_page_after_3s | see_stillcut
  | contents_stillcut | contents_preview | until_format | tutorial_onboarding_0_title
  | tutorial_onboarding_1_title | tutorial_onboarding_2_title | player_tutorial_title_0
  | player_tutorial_title_1 | player_tutorial_title_2 | player_tutorial_title_3
  | player_tutorial_desc_1 | player_tutorial_desc_2 | player_tutorial_desc_3
  | player_floor_tutorial_title_0 | player_floor_tutorial_title_1
  | player_floor_tutorial_desc_0 | player_floor_tutorial_desc_1 | intro_start | intro_skip
  | tutorial_txt_1 | tutorial_txt_2 | thousand | ten_thousand | billion | lge_special
  | search_hint1 | search_theme_contents | view_all | delete_all | trends | search_recent
  | search_related | search_result_null | search_result | take_shot | switch_camera
  | my_contents_link | warning_temperature | qlone_same_name | qlone_name_have_blink
  | qlone_name_have_special | qlone_limit_name | downloadable_content
  | streaming_cotent_mid_quality | streaming_content_high_quality
  | streaming_content_ultra_quality | performance | sticker | threed_character | home_thumb
  | hot_thumb | new_thumb | my_thumb | content_path_string | copying | event_detail_desc1
  | event_detal_desc2 | excute_recog_image | force_set_5G | all_network_set | test_play_btn
  | apply_after_app_start | change_server | pls_restart_app_after_change_server | speed_test
  | test_for_change_ctn | pls_restart_app_after_change | test_mode_search | term_agree_screen
  | init_turorial | inspection | inspect_content_list | program_test_list
  | inspect_local_content_list | term_agree | video | animated | photo | tile_bts_promotion
  | thumbnail | program | playback | text | gif | title_notice | title_notice_title_notice
  | replay_content_replay_content | seolhyun | fcm_id_confirm | all_confirm_agree
  | copied_to_clipboard | invalid_uri | mandatory_folder_not_found | debug_set_ok
  | to_inspect_mode_set | remain_count | inspect_mode_setted | theme
  | not_supported_your_device | network_error_before_login
  deriving DecidableEq, Repr

namespace Keys

/-- `rawValue`: the name of the case. -/
def rawValue : Keys → String
  | .trash => "trash"
  | .app_name => "app_name"
  | .bottom_nav_title_home => "bottom_nav_title_home"
  | .bottom_nav_title_search => "bottom_nav_title_search"
  | .bottom_nav_title_my => "bottom_nav_title_my"
  | .bottom_nav_title_setting => "bottom_nav_title_setting"
  | .play_time => "play_time"
  | .max_size => "max_size"
  | .artist => "artist"
  | .expire_date => "expire_date"
  | .content_basic_info => "content_basic_info"
  | .buffering_info => "buffering_info"
  | .buffering_info_other => "buffering_info_other"
  | .buffering_button1 => "buffering_button1"
  | .buffering_button2 => "buffering_button2"
  | .buffering_button3 => "buffering_button3"
  | .reply_hint => "reply_hint"
  | .reply => "reply"
  | .register => "register"
  | .reply_not_permit => "reply_not_permit"
  | .report_limit => "report_limit"
  | .download => "download"
  | .downloading => "downloading"
  | .no => "no"
  | .yes => "yes"
  | .cancel => "cancel"
  | .save => "save"
  | .pause => "pause"
  | .restart => "restart"
  | .retry => "retry"
  | .play => "play"
  | .play_now => "play_now"
  | .see_more => "see_more"
  | .see_more_close => "see_more_close"
  | .check_network => "check_network"
  | .go_to_mydownload => "go_to_mydownload"
  | .leave => "leave"
  | .download_paused => "download_paused"
  | .view_detail => "view_detail"
  | .permission_title => "permission_title"
  | .permission_app_name => "permission_app_name"
  | .permission_app_desc => "permission_app_desc"
  | .permission_phone => "permission_phone"
  | .permission_phone_desc => "permission_phone_desc"
  | .permission_storage => "permission_storage"
  | .permission_storage_desc => "permission_storage_desc"
  | .permission_camera => "permission_camera"
  | .permission_camera_desc => "permission_camera_desc"
  | .permission_mic => "permission_mic"
  | .permission_mic_desc => "permission_mic_desc"
  | .permission_location => "permission_location"
  | .permission_location_desc => "permission_location_desc"
  | .popup_turn_off_today => "popup_turn_off_today"
  | .popup_turn_off => "popup_turn_off"
  | .agreement_title => "agreement_title"
  | .agreement_desc => "agreement_desc"
  | .agreement_usage => "agreement_usage"
  | .agreement_private_info => "agreement_private_info"
  | .agreement_info_process => "agreement_info_process"
  | .agreement_marketing => "agreement_marketing"
  | .agreement_extra_desc => "agreement_extra_desc"
  | .agreement_warn => "agreement_warn"
  | .agreement_all => "agreement_all"
  | .agreement_marketing_info => "agreement_marketing_info"
  | .agree_cancel_notice => "agree_cancel_notice"
  | .see_underline => "see_underline"
  | .next => "next"
  | .close => "close"
  | .ok => "ok"
  | .exit => "exit"
  | .keep => "keep"
  | .prev_version => "prev_version"
  | .next_version => "next_version"
  | .agreement_and_go => "agreement_and_go"
  | .close_app_confirm => "close_app_confirm"
  | .theme_view_all => "theme_view_all"
  | .like => "like"
  | .share => "share"
  | .share_jpg => "share_jpg"
  | .share_gif => "share_gif"
  | .share_mp4 => "share_mp4"
  | .my_recently_viewed => "my_recently_viewed"
  | .my_download => "my_download"
  | .my_like => "my_like"
  | .my_replies => "my_replies"
  | .my_contents => "my_contents"
  | .my_album => "my_album"
  | .delete => "delete"
  | .font_error => "font_error"
  | .share_content => "share_content"
  | .my_contents_selection_delete => "my_contents_selection_delete"
  | .my_contents_selection_delete_confirm => "my_contents_selection_delete_confirm"
  | .my_contents_camera => "my_contents_camera"
  | .my_contents_3d => "my_contents_3d"
  | .my_contents_ => "my_contents_"
  | .qlone_no_contents => "qlone_no_contents"
  | .qlone_tutorial_need_mat => "qlone_tutorial_need_mat"
  | .qlone_tutorial_download_btn => "qlone_tutorial_download_btn"
  | .qlone_tutorial_do_landscape => "qlone_tutorial_do_landscape"
  | .qlone_tutorial_360_scan => "qlone_tutorial_360_scan"
  | .qlone_tutorial_360_scan_msg => "qlone_tutorial_360_scan_msg"
  | .qlone_tutorial_keep_scan => "qlone_tutorial_keep_scan"
  | .qlone_tutorial_other_scan => "qlone_tutorial_other_scan"
  | .qlone_tutorial_after_scan => "qlone_tutorial_after_scan"
  | .qlone_tutorial_after_scan_2 => "qlone_tutorial_after_scan_2"
  | .qlone_make_name_desc => "qlone_make_name_desc"
  | .qlone_make_name_hint => "qlone_make_name_hint"
  | .qlone_exit_scanning_desc => "qlone_exit_scanning_desc"
  | .qlone_exit_not_saved_desc => "qlone_exit_not_saved_desc"
  | .qlone_select_share_type_title => "qlone_select_share_type_title"
  | .qlone_randering => "qlone_randering"
  | .setting_event => "setting_event"
  | .setting_notice => "setting_notice"
  | .setting_faq => "setting_faq"
  | .setting_question => "setting_question"
  | .setting_other => "setting_other"
  | .select_all => "select_all"
  | .setting_nickname => "setting_nickname"
  | .setting_push => "setting_push"
  | .setting_push_desc => "setting_push_desc"
  | .setting_continuous_play => "setting_continuous_play"
  | .setting_continuous_play_desc => "setting_continuous_play_desc"
  | .setting_bright_theme => "setting_bright_theme"
  | .setting_contents_save => "setting_contents_save"
  | .setting_app_version => "setting_app_version"
  | .setting_current_version => "setting_current_version"
  | .setting_opensource_licence => "setting_opensource_licence"
  | .setting_terms_of_service => "setting_terms_of_service"
  | .setting_private_policy => "setting_private_policy"
  | .setting_private_policy_collection => "setting_private_policy_collection"
  | .setting_private_policy_terms => "setting_private_policy_terms"
  | .setting_update_agreement => "setting_update_agreement"
  | .setting_nick_current_nick => "setting_nick_current_nick"
  | .setting_nick_change_nick_hint => "setting_nick_change_nick_hint"
  | .setting_nick_change_nick_success => "setting_nick_change_nick_success"
  | .setting_nick_change_nick_duplicate => "setting_nick_change_nick_duplicate"
  | .setting_version_update => "setting_version_update"
  | .setting_select_storage => "setting_select_storage"
  | .setting_update_disagree_last_version => "setting_update_disagree_last_version"
  | .setting_question_title2 => "setting_question_title2"
  | .setting_question_title3 => "setting_question_title3"
  | .setting_question_hint_email => "setting_question_hint_email"
  | .setting_question_hint => "setting_question_hint"
  | .setting_question_agreement => "setting_question_agreement"
  | .setting_question_send => "setting_question_send"
  | .setting_question_dialog => "setting_question_dialog"
  | .setting_question_toast => "setting_question_toast"
  | .setting_question_failure => "setting_question_failure"
  | .setting_question_title => "setting_question_title"
  | .setting_question_type_select2 => "setting_question_type_select2"
  | .setting_question_type_select => "setting_question_type_select"
  | .setting_question_type_app_usage => "setting_question_type_app_usage"
  | .setting_question_type_price_data => "setting_question_type_price_data"
  | .setting_question_type_contents_quality => "setting_question_type_contents_quality"
  | .setting_question_type_event => "setting_question_type_event"
  | .setting_question_type_others => "setting_question_type_others"
  | .setting_question_type_feedback => "setting_question_type_feedback"
  | .setting_event_apply => "setting_event_apply"
  | .setting_internal_storage => "setting_internal_storage"
  | .setting_sd_card => "setting_sd_card"
  | .setting_available_space => "setting_available_space"
  | .setting_change_space => "setting_change_space"
  | .contents => "contents"
  | .writer => "writer"
  | .report => "report"
  | .report_select_reason => "report_select_reason"
  | .report_reason_1 => "report_reason_1"
  | .report_reason_2 => "report_reason_2"
  | .report_reason_3 => "report_reason_3"
  | .report_complete => "report_complete"
  | .etc => "etc"
  | .report_hint_detail => "report_hint_detail"
  | .player_reply => "player_reply"
  | .player_reply_please_enter => "player_reply_please_enter"
  | .player_no_reply => "player_no_reply"
  | .player_searching_surface_toast => "player_searching_surface_toast"
  | .player_unsupported_device => "player_unsupported_device"
  | .player_save_preview => "player_save_preview"
  | .player_video_recording_end => "player_video_recording_end"
  | .player_play_done => "player_play_done"
  | .today => "today"
  | .yesterday => "yesterday"
  | .two_days_ago => "two_days_ago"
  | .three_days_ago => "three_days_ago"
  | .four_days_ago => "four_days_ago"
  | .five_days_ago => "five_days_ago"
  | .six_days_ago => "six_days_ago"
  | .seven_days_ago => "seven_days_ago"
  | .order_date => "order_date"
  | .order_size => "order_size"
  | .update_popup_major => "update_popup_major"
  | .update_popup_miner => "update_popup_miner"
  | .later => "later"
  | .update => "update"
  | .save_file_out_of_storage => "save_file_out_of_storage"
  | .move_to_setting => "move_to_setting"
  | .preview_exit_without_save => "preview_exit_without_save"
  | .could_not_open_page => "could_not_open_page"
  | .error_occurred => "error_occurred"
  | .network_error => "network_error"
  | .network_error_too_many => "network_error_too_many"
  | .network_error_wifi => "network_error_wifi"
  | .network_error_cell => "network_error_cell"
  | .server_error => "server_error"
  | .my_recently_viewed_empty => "my_recently_viewed_empty"
  | .my_download_empty => "my_download_empty"
  | .my_like_empty => "my_like_empty"
  | .my_reply_empty => "my_reply_empty"
  | .my_contents_empty => "my_contents_empty"
  | .my_contents_see_other => "my_contents_see_other"
  | .network_error_splash => "network_error_splash"
  | .roaming_status_dialog => "roaming_status_dialog"
  | .roaming_status => "roaming_status"
  | .usim_not_inserted => "usim_not_inserted"
  | .insufficient_storage => "insufficient_storage"
  | .contents_expiration => "contents_expiration"
  | .reply_reported => "reply_reported"
  | .deleted_contents => "deleted_contents"
  | .reply_not_entered => "reply_not_entered"
  | .reply_overflow => "reply_overflow"
  | .reply_add_completed => "reply_add_completed"
  | .reply_add_failed => "reply_add_failed"
  | .reply_include_slang => "reply_include_slang"
  | .reply_delete_completed => "reply_delete_completed"
  | .reply_delete_failed => "reply_delete_failed"
  | .download_completed => "download_completed"
  | .cancel_download => "cancel_download"
  | .cannot_contents_3d_streaming => "cannot_contents_3d_streaming"
  | .cannot_contents_lte_streaming => "cannot_contents_lte_streaming"
  | .cannot_lte_warning => "cannot_lte_warning"
  | .download_failed => "download_failed"
  | .download_retry => "download_retry"
  | .download_resumed => "download_resumed"
  | .recently_viewed_contents_max_limited => "recently_viewed_contents_max_limited"
  | .reply_delete_warn => "reply_delete_warn"
  | .reply_delete => "reply_delete"
  | .delete_contents_warn => "delete_contents_warn"
  | .delete_contents_completed => "delete_contents_completed"
  | .delete_contents_failed => "delete_contents_failed"
  | .reply_report_failed => "reply_report_failed"
  | .play_failed => "play_failed"
  | .dialog_play_next_wating => "dialog_play_next_wating"
  | .dialog_play_next_wating_remaining => "dialog_play_next_wating_remaining"
  | .dialog_play_next_setting_change => "dialog_play_next_setting_change"
  | .dialog_cell_warning => "dialog_cell_warning"
  | .dialog_streaming_warning => "dialog_streaming_warning"
  | .dialog_ar_caution1 => "dialog_ar_caution1"
  | .dialog_ar_caution2 => "dialog_ar_caution2"
  | .register_user_completed => "register_user_completed"
  | .permission_rational_desc => "permission_rational_desc"
  | .setting_now => "setting_now"
  | .setting_later => "setting_later"
  | .third_party_user_notice => "third_party_user_notice"
  | .third_party_user_preview_notice_mvno => "third_party_user_preview_notice_mvno"
  | .third_party_user_preview_notice => "third_party_user_preview_notice"
  | .internal_storage_required_size_exceed => "internal_storage_required_size_exceed"
  | .contents_turn_off => "contents_turn_off"
  | .preview_end_alert => "preview_end_alert"
  | .streaming_alert_lte_toast => "streaming_alert_lte_toast"
  | .streaming_alert_wifi_toast => "streaming_alert_wifi_toast"
  | .contents_lte_download_toast => "contents_lte_download_toast"
  | .contents_3d_download_toast => "contents_3d_download_toast"
  | .streaming_alert_5g => "streaming_alert_5g"
  | .streaming_alert_lte => "streaming_alert_lte"
  | .download_info_5g => "download_info_5g"
  | .data_saving_mode_warn => "data_saving_mode_warn"
  | .please_recognize_image => "please_recognize_image"
  | .please_recognize_fail => "please_recognize_fail"
  | .move_google_lens => "move_google_lens"
  | .start_event_page_after_3s => "start_event_page_after_3s"
  | .see_stillcut => "see_stillcut"
  | .contents_stillcut => "contents_stillcut"
  | .contents_preview => "contents_preview"
  | .until_format => "until_format"
  | .tutorial_onboarding_0_title => "tutorial_onboarding_0_title"
  | .tutorial_onboarding_1_title => "tutorial_onboarding_1_title"
  | .tutorial_onboarding_2_title => "tutorial_onboarding_2_title"
  | .player_tutorial_title_0 => "player_tutorial_title_0"
  | .player_tutorial_title_1 => "player_tutorial_title_1"
  | .player_tutorial_title_2 => "player_tutorial_title_2"
  | .player_tutorial_title_3 => "player_tutorial_title_3"
  | .player_tutorial_desc_1 => "player_tutorial_desc_1"
  | .player_tutorial_desc_2 => "player_tutorial_desc_2"
  | .player_tutorial_desc_3 => "player_tutorial_desc_3"
  | .player_floor_tutorial_title_0 => "player_floor_tutorial_title_0"
  | .player_floor_tutorial_title_1 => "player_floor_tutorial_title_1"
  | .player_floor_tutorial_desc_0 => "player_floor_tutorial_desc_0"
  | .player_floor_tutorial_desc_1 => "player_floor_tutorial_desc_1"
  | .intro_start => "intro_start"
  | .intro_skip => "intro_skip"
  | .tutorial_txt_1 => "tutorial_txt_1"
  | .tutorial_txt_2 => "tutorial_txt_2"
  | .thousand => "thousand"
  | .ten_thousand => "ten_thousand"
  | .billion => "billion"
  | .lge_special => "lge_special"
  | .search_hint1 => "search_hint1"
  | .search_theme_contents => "search_theme_contents"
  | .view_all => "view_all"
  | .delete_all => "delete_all"
  | .trends => "trends"
  | .search_recent => "search_recent"
  | .search_related => "search_related"
  | .search_result_null => "search_result_null"
  | .search_result => "search_result"
  | .take_shot => "take_shot"
  | .switch_camera => "switch_camera"
  | .my_contents_link => "my_contents_link"
  | .warning_temperature => "warning_temperature"
  | .qlone_same_name => "qlone_same_name"
  | .qlone_name_have_blink => "qlone_name_have_blink"
  | .qlone_name_have_special => "qlone_name_have_special"
  | .qlone_limit_name => "qlone_limit_name"
  | .downloadable_content => "downloadable_content"
  | .streaming_cotent_mid_quality => "streaming_cotent_mid_quality"
  | .streaming_content_high_quality => "streaming_content_high_quality"
  | .streaming_content_ultra_quality => "streaming_content_ultra_quality"
  | .performance => "performance"
  | .sticker => "sticker"
  | .threed_character => "threed_character"
  | .home_thumb => "home_thumb"
  | .hot_thumb => "hot_thumb"
  | .new_thumb => "new_thumb"
  | .my_thumb => "my_thumb"
  | .content_path_string => "content_path_string"
  | .copying => "copying"
  | .event_detail_desc1 => "event_detail_desc1"
  | .event_detal_desc2 => "event_detal_desc2"
  | .excute_recog_image => "excute_recog_image"
  | .force_set_5G => "force_set_5G"
  | .all_network_set => "all_network_set"
  | .test_play_btn => "test_play_btn"
  | .apply_after_app_start => "apply_after_app_start"
  | .change_server => "change_server"
  | .pls_restart_app_after_change_server => "pls_restart_app_after_change_server"
  | .speed_test => "speed_test"
  | .test_for_change_ctn => "test_for_change_ctn"
  | .pls_restart_app_after_change => "pls_restart_app_after_change"
  | .test_mode_search => "test_mode_search"
  | .term_agree_screen => "term_agree_screen"
  | .init_turorial => "init_turorial"
  | .inspection => "inspection"
  | .inspect_content_list => "inspect_content_list"
  | .program_test_list => "program_test_list"
  | .inspect_local_content_list => "inspect_local_content_list"
  | .term_agree => "term_agree"
  | .video => "video"
  | .animated => "animated"
  | .photo => "photo"
  | .tile_bts_promotion => "tile_bts_promotion"
  | .thumbnail => "thumbnail"
  | .program => "program"
  | .playback => "playback"
  | .text => "text"
  | .gif => "gif"
  | .title_notice => "title_notice"
  | .title_notice_title_notice => "title_notice_title_notice"
  | .replay_content_replay_content => "replay_content_replay_content"
  | .seolhyun => "seolhyun"
  | .fcm_id_confirm => "fcm_id_confirm"
  | .all_confirm_agree => "all_confirm_agree"
  | .copied_to_clipboard => "copied_to_clipboard"
  | .invalid_uri => "invalid_uri"
  | .mandatory_folder_not_found => "mandatory_folder_not_found"
  | .debug_set_ok => "debug_set_ok"
  | .to_inspect_mode_set => "to_inspect_mode_set"
  | .remain_count => "remain_count"
  | .inspect_mode_setted => "inspect_mode_setted"
  | .theme => "theme"
  | .not_supported_your_device => "not_supported_your_device"
  | .network_error_before_login => "network_error_before_login"

def allCases : List Keys :=
  [.trash, .app_name, .bottom_nav_title_home, .bottom_nav_title_search, .bottom_nav_title_my,
    .bottom_nav_title_setting, .play_time, .max_size, .artist, .expire_date,
    .content_basic_info, .buffering_info, .buffering_info_other, .buffering_button1,
    .buffering_button2, .buffering_button3, .reply_hint, .reply, .register, .reply_not_permit,
    .report_limit, .download, .downloading, .no, .yes, .cancel, .save, .pause, .restart,
    .retry, .play, .play_now, .see_more, .see_more_close, .check_network, .go_to_mydownload,
    .leave, .download_paused, .view_detail, .permission_title, .permission_app_name,
    .permission_app_desc, .permission_phone, .permission_phone_desc, .permission_storage,
    .permission_storage_desc, .permission_camera, .permission_camera_desc, .permission_mic,
    .permission_mic_desc, .permission_location, .permission_location_desc,
    .popup_turn_off_today, .popup_turn_off, .agreement_title, .agreement_desc,
    .agreement_usage, .agreement_private_info, .agreement_info_process, .agreement_marketing,
    .agreement_extra_desc, .agreement_warn, .agreement_all, .agreement_marketing_info,
    .agree_cancel_notice, .see_underline, .next, .close, .ok, .exit, .keep, .prev_version,
    .next_version, .agreement_and_go, .close_app_confirm, .theme_view_all, .like, .share,
    .share_jpg, .share_gif, .share_mp4, .my_recently_viewed, .my_download, .my_like,
    .my_replies, .my_contents, .my_album, .delete, .font_error, .share_content,
    .my_contents_selection_delete, .my_contents_selection_delete_confirm, .my_contents_camera,
    .my_contents_3d, .my_contents_, .qlone_no_contents, .qlone_tutorial_need_mat,
    .qlone_tutorial_download_btn, .qlone_tutorial_do_landscape, .qlone_tutorial_360_scan,
    .qlone_tutorial_360_scan_msg, .qlone_tutorial_keep_scan, .qlone_tutorial_other_scan,
    .qlone_tutorial_after_scan, .qlone_tutorial_after_scan_2, .qlone_make_name_desc,
    .qlone_make_name_hint, .qlone_exit_scanning_desc, .qlone_exit_not_saved_desc,
    .qlone_select_share_type_title, .qlone_randering, .setting_event, .setting_notice,
    .setting_faq, .setting_question, .setting_other, .select_all, .setting_nickname,
    .setting_push, .setting_push_desc, .setting_continuous_play, .setting_continuous_play_desc,
    .setting_bright_theme, .setting_contents_save, .setting_app_version,
    .setting_current_version, .setting_opensource_licence, .setting_terms_of_service,
    .setting_private_policy, .setting_private_policy_collection, .setting_private_policy_terms,
    .setting_update_agreement, .setting_nick_current_nick, .setting_nick_change_nick_hint,
    .setting_nick_change_nick_success, .setting_nick_change_nick_duplicate,
    .setting_version_update, .setting_select_storage, .setting_update_disagree_last_version,
    .setting_question_title2, .setting_question_title3, .setting_question_hint_email,
    .setting_question_hint, .setting_question_agreement, .setting_question_send,
    .setting_question_dialog, .setting_question_toast, .setting_question_failure,
    .setting_question_title, .setting_question_type_select2, .setting_question_type_select,
    .setting_question_type_app_usage, .setting_question_type_price_data,
    .setting_question_type_contents_quality, .setting_question_type_event,
    .setting_question_type_others, .setting_question_type_feedback, .setting_event_apply,
    .setting_internal_storage, .setting_sd_card, .setting_available_space,
    .setting_change_space, .contents, .writer, .report, .report_select_reason,
    .report_reason_1, .report_reason_2, .report_reason_3, .report_complete, .etc,
    .report_hint_detail, .player_reply, .player_reply_please_enter, .player_no_reply,
    .player_searching_surface_toast, .player_unsupported_device, .player_save_preview,
    .player_video_recording_end, .player_play_done, .today, .yesterday, .two_days_ago,
    .three_days_ago, .four_days_ago, .five_days_ago, .six_days_ago, .seven_days_ago,
    .order_date, .order_size, .update_popup_major, .update_popup_miner, .later, .update,
    .save_file_out_of_storage, .move_to_setting, .preview_exit_without_save,
    .could_not_open_page, .error_occurred, .network_error, .network_error_too_many,
    .network_error_wifi, .network_error_cell, .server_error, .my_recently_viewed_empty,
    .my_download_empty, .my_like_empty, .my_reply_empty, .my_contents_empty,
    .my_contents_see_other, .network_error_splash, .roaming_status_dialog, .roaming_status,
    .usim_not_inserted, .insufficient_storage, .contents_expiration, .reply_reported,
    .deleted_contents, .reply_not_entered, .reply_overflow, .reply_add_completed,
    .reply_add_failed, .reply_include_slang, .reply_delete_completed, .reply_delete_failed,
    .download_completed, .cancel_download, .cannot_contents_3d_streaming,
    .cannot_contents_lte_streaming, .cannot_lte_warning, .download_failed, .download_retry,
    .download_resumed, .recently_viewed_contents_max_limited, .reply_delete_warn,
    .reply_delete, .delete_contents_warn, .delete_contents_completed, .delete_contents_failed,
    .reply_report_failed, .play_failed, .dialog_play_next_wating,
    .dialog_play_next_wating_remaining, .dialog_play_next_setting_change, .dialog_cell_warning,
    .dialog_streaming_warning, .dialog_ar_caution1, .dialog_ar_caution2,
    .register_user_completed, .permission_rational_desc, .setting_now, .setting_later,
    .third_party_user_notice, .third_party_user_preview_notice_mvno,
    .third_party_user_preview_notice, .internal_storage_required_size_exceed,
    .contents_turn_off, .preview_end_alert, .streaming_alert_lte_toast,
    .streaming_alert_wifi_toast, .contents_lte_download_toast, .contents_3d_download_toast,
    .streaming_alert_5g, .streaming_alert_lte, .download_info_5g, .data_saving_mode_warn,
    .please_recognize_image, .please_recognize_fail, .move_google_lens,
    .start_event_page_after_3s, .see_stillcut, .contents_stillcut, .contents_preview,
    .until_format, .tutorial_onboarding_0_title, .tutorial_onboarding_1_title,
    .tutorial_onboarding_2_title, .player_tutorial_title_0, .player_tutorial_title_1,
    .player_tutorial_title_2, .player_tutorial_title_3, .player_tutorial_desc_1,
    .player_tutorial_desc_2, .player_tutorial_desc_3, .player_floor_tutorial_title_0,
    .player_floor_tutorial_title_1, .player_floor_tutorial_desc_0,
    .player_floor_tutorial_desc_1, .intro_start, .intro_skip, .tutorial_txt_1, .tutorial_txt_2,
    .thousand, .ten_thousand, .billion, .lge_special, .search_hint1, .search_theme_contents,
    .view_all, .delete_all, .trends, .search_recent, .search_related, .search_result_null,
    .search_result, .take_shot, .switch_camera, .my_contents_link, .warning_temperature,
    .qlone_same_name, .qlone_name_have_blink, .qlone_name_have_special, .qlone_limit_name,
    .downloadable_content, .streaming_cotent_mid_quality, .streaming_content_high_quality,
    .streaming_content_ultra_quality, .performance, .sticker, .threed_character, .home_thumb,
    .hot_thumb, .new_thumb, .my_thumb, .content_path_string, .copying, .event_detail_desc1,
    .event_detal_desc2, .excute_recog_image, .force_set_5G, .all_network_set, .test_play_btn,
    .apply_after_app_start, .change_server, .pls_restart_app_after_change_server, .speed_test,
    .test_for_change_ctn, .pls_restart_app_after_change, .test_mode_search, .term_agree_screen,
    .init_turorial, .inspection, .inspect_content_list, .program_test_list,
    .inspect_local_content_list, .term_agree, .video, .animated, .photo, .tile_bts_promotion,
    .thumbnail, .program, .playback, .text, .gif, .title_notice, .title_notice_title_notice,
    .replay_content_replay_content, .seolhyun, .fcm_id_confirm, .all_confirm_agree,
    .copied_to_clipboard, .invalid_uri, .mandatory_folder_not_found, .debug_set_ok,
    .to_inspect_mode_set, .remain_count, .inspect_mode_setted, .theme,
    .not_supported_your_device, .network_error_before_login]

/-- `Keys(rawValue:)` -/
def ofRawValue (rawValue : String) : Option Keys :=
  allCases.find? fun key => key.rawValue == rawValue

/-- A key is made from its own raw value only. -/
theorem rawValue_of_ofRawValue {name : String} {key : Keys}
    (h : ofRawValue name = some key) : key.rawValue = name := by
  simpa using List.find?_some h

/-- Different names are different keys. -/
theorem ofRawValue_inj {name name' : String} {key : Keys}
    (h : ofRawValue name = some key) (h' : ofRawValue name' = some key) :
    name = name' :=
  (rawValue_of_ofRawValue h).symm.trans (rawValue_of_ofRawValue h')

end Keys

end Localization
